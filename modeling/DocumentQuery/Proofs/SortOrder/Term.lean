import DocumentQuery.Proofs.Text.Blank
import DocumentQuery.SortOrder

/-!
What a sort term means, and how it is read.

A term is a field or, in front of a blank and one of the words `ASC` and `DESC` in any case, a field
with a direction (`SortTerm.Means`). A text can be cut before such a word in one way only, and that is
where the reader cuts it, if no line feed stands in front (`SortTerm.cut?_eq_some_iff`). There are two
kinds of terms that are read as something else, and no others (`SortTerm.term_read_as_meant`).
-/

namespace DocumentQuery

/-! ## Words for directions -/

namespace Direction

/-- The word for a direction, in small letters. -/
def word : Direction → List Char
  | ascending => "asc".toList
  | descending => "desc".toList

/-- Whether a text is the word for a direction, in whatever case. -/
def IsNamedBy (direction : Direction) (text : List Char) : Prop :=
  text.map Char.toLower = direction.word

instance (direction : Direction) (text : List Char) : Decidable (direction.IsNamedBy text) :=
  inferInstanceAs (Decidable (_ = _))

/-- A letter without its case. A long s is a form of `s` here. -/
def fold (c : Char) : Char :=
  if c = 'ſ' then 's' else c.toLower

/-- Whether a text would be the word for a direction with an `s` in the place of a long s. -/
def HasLongS (text : List Char) : Prop :=
  'ſ' ∈ text ∧ ∃ direction : Direction, text.map fold = direction.word

variable {direction : Direction} {text : List Char}

theorem mem_word : ∀ c ∈ direction.word, c ≠ 'ſ' ∧ Text.isBlank c = false := by
  have letters : (direction.word.all fun c => c ≠ 'ſ' ∧ Text.isBlank c = false) = true := by
    cases direction <;> decide
  intro c member
  exact of_decide_eq_true (List.all_eq_true.mp letters c member)

theorem IsNamedBy.toLower_mem (named : direction.IsNamedBy text) {c : Char} (member : c ∈ text) :
    c.toLower ∈ direction.word := by
  rw [← named]
  exact List.mem_map_of_mem member

theorem IsNamedBy.not_mem (named : direction.IsNamedBy text) : 'ſ' ∉ text := fun member =>
  (mem_word _ (named.toLower_mem member)).1 (by decide)

/-- Without a long s, folding is the same as taking small letters. -/
theorem map_fold_of_not_mem (absent : 'ſ' ∉ text) : text.map fold = text.map Char.toLower := by
  apply List.map_congr_left
  intro c member
  have ne : c ≠ 'ſ' := by
    rintro rfl
    exact absent member
  exact if_neg ne

/-- No word for a direction has a blank in it. -/
theorem isBlank_of_map_fold (folded : text.map fold = direction.word) :
    ∀ c ∈ text, Text.isBlank c = false := by
  intro c member
  have letter := List.mem_map_of_mem (f := fold) member
  rw [folded] at letter
  by_cases long : c = 'ſ'
  · rw [long]
    decide
  · have small := (mem_word _ letter).2
    rwa [fold, if_neg long, Text.isBlank_toLower] at small

/-! ## The reader of words -/

theorem isForm_iff {letter c : Char} (ne : letter ≠ 'ſ') : isForm letter c = true ↔ fold c = letter := by
  unfold isForm fold
  simp only [Bool.or_eq_true, Bool.and_eq_true, decide_eq_true_eq]
  by_cases long : c = 'ſ'
  · subst long
    have own : 'ſ'.toLower = 'ſ' := by decide
    simp only [own, ne.symm, false_or, and_true, if_true]
    exact eq_comm
  · simp [long]

theorem spells_iff {word text : List Char} (plain : 'ſ' ∉ word) :
    spells word text = true ↔ text.map fold = word := by
  induction word generalizing text with
  | nil => cases text <;> simp [spells]
  | cons letter word ih =>
    rw [List.mem_cons, not_or] at plain
    cases text with
    | nil => simp [spells]
    | cons c text =>
      rw [spells, Bool.and_eq_true, isForm_iff (Ne.symm plain.1), ih plain.2, List.map_cons,
        List.cons.injEq]

theorem spells_word_iff : spells direction.word text = true ↔ text.map fold = direction.word :=
  spells_iff fun member => (mem_word _ member).1 rfl

theorem ofWord?_eq (text : List Char) :
    ofWord? text =
      if text.map fold = descending.word then
        some (if text.map Char.toLower = descending.word then descending else ascending)
      else if text.map fold = ascending.word then some ascending
      else none := by
  simp only [← spells_word_iff]
  rfl

/-- With a long s, the word for any direction is read as the one for the usual direction. -/
theorem ofWord?_of_map_fold (folded : text.map fold = direction.word) :
    ofWord? text = some (if 'ſ' ∈ text then ascending else direction) := by
  have other : ascending.word ≠ descending.word := by decide
  rw [ofWord?_eq, folded]
  cases direction with
  | ascending => rw [if_neg other, if_pos rfl, ite_self]
  | descending =>
    rw [if_pos rfl]
    by_cases long : 'ſ' ∈ text
    · have notNamed : text.map Char.toLower ≠ descending.word := fun named =>
        IsNamedBy.not_mem named long
      rw [if_pos long, if_neg notNamed]
    · rw [map_fold_of_not_mem long] at folded
      rw [if_neg long, if_pos folded]

theorem exists_map_fold_of_ofWord? (read : ofWord? text = some direction) :
    ∃ named : Direction, text.map fold = named.word := by
  rw [ofWord?_eq] at read
  split at read
  · next down => exact ⟨descending, down⟩
  · split at read
    · next up => exact ⟨ascending, up⟩
    · cases read

/-- A word is read as the direction that it names, and as the usual one when it has a long s. -/
theorem ofWord?_eq_some_iff : ofWord? text = some direction ↔
    direction.IsNamedBy text ∨ direction = ascending ∧ HasLongS text := by
  constructor
  · intro read
    obtain ⟨named, folded⟩ := exists_map_fold_of_ofWord? read
    rw [ofWord?_of_map_fold folded, Option.some.injEq] at read
    by_cases long : 'ſ' ∈ text
    · rw [if_pos long] at read
      exact Or.inr ⟨read.symm, long, named, folded⟩
    · rw [if_neg long] at read
      rw [map_fold_of_not_mem long] at folded
      exact Or.inl (read ▸ folded)
  · intro found
    rcases found with named | ⟨rfl, long, named, folded⟩
    · have folded := (map_fold_of_not_mem named.not_mem).trans named
      rw [ofWord?_of_map_fold folded, if_neg named.not_mem]
    · rw [ofWord?_of_map_fold folded, if_pos long]

theorem IsNamedBy.ofWord? (named : direction.IsNamedBy text) : ofWord? text = some direction :=
  ofWord?_eq_some_iff.mpr (Or.inl named)

theorem HasLongS.ofWord? (long : HasLongS text) : Direction.ofWord? text = some ascending :=
  ofWord?_eq_some_iff.mpr (Or.inr ⟨rfl, long⟩)

theorem isBlank_of_ofWord? (read : ofWord? text = some direction) :
    ∀ c ∈ text, Text.isBlank c = false := by
  obtain ⟨_, folded⟩ := exists_map_fold_of_ofWord? read
  exact isBlank_of_map_fold folded

end Direction

/-! ## Cuts before a word -/

namespace SortTerm

/-- Whether a text is a front, one blank, and a word behind it. -/
def IsCut (text front word : List Char) : Prop :=
  ∃ blank, Text.isBlank blank = true ∧ text = front ++ blank :: word

/-- What a text without blanks at its ends means as a sort term: a field with a direction, or a field
alone. -/
inductive Means (text : List Char) : List Char → Direction → Prop
  | directed {front word : List Char} {direction : Direction} (cut : IsCut text front word)
      (named : direction.IsNamedBy word) : Means text (Text.trim front) direction
  | plain (unnamed : ∀ front word, IsCut text front word →
      ∀ direction : Direction, ¬ direction.IsNamedBy word) : Means text text .ascending

variable {text front word : List Char} {direction : Direction}

theorem IsCut.length_lt (cut : IsCut text front word) : (Text.trim front).length < text.length := by
  obtain ⟨blank, _, rfl⟩ := cut
  have shorter := Text.length_trim_le front
  rw [List.length_append, List.length_cons]
  omega

/-- A text is cut before a word for a direction in one way: the word begins behind the last blank. -/
theorem IsCut.unique {front' word' : List Char} {direction' : Direction} (cut : IsCut text front word)
    (cut' : IsCut text front' word') (read : Direction.ofWord? word = some direction)
    (read' : Direction.ofWord? word' = some direction') : front = front' ∧ word = word' := by
  have whole := Direction.isBlank_of_ofWord? read
  have whole' := Direction.isBlank_of_ofWord? read'
  obtain ⟨blank, isBlank, rfl⟩ := cut
  obtain ⟨blank', isBlank', same⟩ := cut'
  rcases List.append_eq_append_iff.mp same with ⟨between, rfl, rest⟩ | ⟨between, rfl, rest⟩
  · cases between with
    | nil => exact ⟨(List.append_nil front).symm, (List.cons.inj rest).2⟩
    | cons c between =>
      have inside : blank' ∈ word := by
        rw [(List.cons.inj rest).2]
        exact List.mem_append_right between List.mem_cons_self
      rw [whole blank' inside] at isBlank'
      cases isBlank'
  · cases between with
    | nil => exact ⟨List.append_nil front', (List.cons.inj rest).2.symm⟩
    | cons c between =>
      have inside : blank ∈ word' := by
        rw [(List.cons.inj rest).2]
        exact List.mem_append_right between List.mem_cons_self
      rw [whole' blank inside] at isBlank
      cases isBlank

/-! ## The reader of terms -/

theorem cut?_of_isCut (cut : IsCut text front word) (read : Direction.ofWord? word = some direction)
    (oneLine : '\n' ∉ front) : cut? text = some (front, direction) := by
  obtain ⟨blank, isBlank, rfl⟩ := cut
  induction front with
  | nil =>
    rw [List.nil_append, cut?, if_pos isBlank, read]
  | cons c front ih =>
    rw [List.mem_cons, not_or] at oneLine
    -- A blank inside the front does not end it: what comes after has a blank in it and is no word.
    have noWord : Direction.ofWord? (front ++ blank :: word) = none := by
      cases other : Direction.ofWord? (front ++ blank :: word) with
      | none => rfl
      | some _ =>
        have whole := Direction.isBlank_of_ofWord? other blank (by simp)
        rw [isBlank] at whole
        cases whole
    rw [List.cons_append, cut?, noWord, ite_self, if_neg (Ne.symm oneLine.1), ih oneLine.2]
    rfl

theorem isCut_of_cut? (read : cut? text = some (front, direction)) :
    ∃ word, IsCut text front word ∧ Direction.ofWord? word = some direction ∧ '\n' ∉ front := by
  induction text generalizing front with
  | nil => cases read
  | cons c text ih =>
    rw [cut?] at read
    split at read
    · next found here =>
      obtain ⟨rfl, rfl⟩ := Prod.mk.inj (Option.some.inj read)
      split at here
      · next blank => exact ⟨text, ⟨c, blank, rfl⟩, here, List.not_mem_nil⟩
      · cases here
    · split at read
      · cases read
      · next sameLine =>
        obtain ⟨⟨rest, later⟩, taken, whole⟩ := Option.map_eq_some_iff.mp read
        obtain ⟨rfl, rfl⟩ := Prod.mk.inj whole
        obtain ⟨word, ⟨blank, isBlank, rfl⟩, named, oneLine⟩ := ih taken
        exact ⟨word, ⟨blank, isBlank, rfl⟩, named, by simp [oneLine, Ne.symm sameLine]⟩

/-- A term is cut before a word for a direction, unless a line feed stands in front. -/
theorem cut?_eq_some_iff : cut? text = some (front, direction) ↔
    ∃ word, IsCut text front word ∧ Direction.ofWord? word = some direction ∧ '\n' ∉ front :=
  ⟨isCut_of_cut?, fun ⟨_, cut, read, oneLine⟩ => cut?_of_isCut cut read oneLine⟩

theorem parse_of_isCut {term : String} (cut : IsCut (Text.trim term.toList) front word)
    (read : Direction.ofWord? word = some direction) (oneLine : '\n' ∉ front) :
    parse term = (String.ofList (Text.trim front), direction) := by
  unfold parse
  simp only [cut?_of_isCut cut read oneLine]

theorem parse_of_cut?_eq_none {term : String} (uncut : cut? (Text.trim term.toList) = none) :
    parse term = (Text.trimmed term, .ascending) := by
  unfold parse
  simp only [uncut]
  rfl

/-! ## Terms that are read otherwise -/

/-- Whether a line feed stands in front of a word for a direction, which is then taken for a part of the
field. -/
def LosesDirection (text : List Char) : Prop :=
  ∃ front word, IsCut text front word ∧ '\n' ∈ front ∧ ∃ direction : Direction, direction.IsNamedBy word

/-- Whether a field ends in a word that is none for a direction but for a long s, and is taken away. -/
def LosesWord (text : List Char) : Prop :=
  ∃ front word, IsCut text front word ∧ '\n' ∉ front ∧ Direction.HasLongS word

/-- A text has one meaning. -/
theorem Means.unique {field field' : List Char} {direction' : Direction} (meant : Means text field direction)
    (meant' : Means text field' direction') : field = field' ∧ direction = direction' := by
  cases meant with
  | directed cut named =>
    cases meant' with
    | directed cut' named' =>
      obtain ⟨rfl, rfl⟩ := cut.unique cut' named.ofWord? named'.ofWord?
      exact ⟨rfl, Option.some.inj (named.ofWord?.symm.trans named'.ofWord?)⟩
    | plain unnamed => exact absurd named (unnamed _ _ cut _)
  | plain unnamed =>
    cases meant' with
    | directed cut named => exact absurd named (unnamed _ _ cut _)
    | plain _ => exact ⟨rfl, rfl⟩

theorem cut?_eq_none_of_losesDirection (loses : LosesDirection text) : cut? text = none := by
  obtain ⟨front, word, cut, lineFeed, direction, named⟩ := loses
  cases taken : cut? text with
  | none => rfl
  | some found =>
    obtain ⟨word', cut', read, oneLine⟩ := cut?_eq_some_iff.mp taken
    obtain ⟨rfl, _⟩ := cut.unique cut' named.ofWord? read
    exact absurd lineFeed oneLine

/-- A word with a long s names no direction, so a text that ends in one means a field as a whole. -/
theorem means_of_losesWord (loses : LosesWord text) : Means text text .ascending := by
  obtain ⟨front, word, cut, _, long⟩ := loses
  apply Means.plain
  intro front' word' cut' direction named
  obtain ⟨_, rfl⟩ := cut.unique cut' long.ofWord? named.ofWord?
  exact named.not_mem long.1

/-- A term is read as what it means when it is of neither kind, and only then. -/
theorem means_parse_iff (term : String) :
    Means (Text.trim term.toList) (parse term).1.toList (parse term).2 ↔
      ¬ LosesDirection (Text.trim term.toList) ∧ ¬ LosesWord (Text.trim term.toList) := by
  constructor
  · intro meant
    constructor
    · intro loses
      rw [parse_of_cut?_eq_none (cut?_eq_none_of_losesDirection loses), Text.toList_trimmed] at meant
      obtain ⟨front, word, cut, _, direction, named⟩ := loses
      have shorter := cut.length_lt
      rw [((Means.directed cut named).unique meant).1] at shorter
      exact absurd shorter (Nat.lt_irrefl _)
    · intro loses
      have whole := means_of_losesWord loses
      obtain ⟨front, word, cut, oneLine, long⟩ := loses
      rw [parse_of_isCut cut long.ofWord? oneLine, String.toList_ofList] at meant
      have shorter := cut.length_lt
      rw [(meant.unique whole).1] at shorter
      exact absurd shorter (Nat.lt_irrefl _)
  · intro keeps
    obtain ⟨keepsDirection, keepsWord⟩ := keeps
    cases taken : cut? (Text.trim term.toList) with
    | none =>
      rw [parse_of_cut?_eq_none taken, Text.toList_trimmed]
      apply Means.plain
      intro front word cut direction named
      by_cases lineFeed : '\n' ∈ front
      · exact keepsDirection ⟨front, word, cut, lineFeed, direction, named⟩
      · rw [cut?_of_isCut cut named.ofWord? lineFeed] at taken
        cases taken
    | some found =>
      obtain ⟨word, cut, read, oneLine⟩ := cut?_eq_some_iff.mp taken
      rw [parse_of_isCut cut read oneLine, String.toList_ofList]
      rcases Direction.ofWord?_eq_some_iff.mp read with named | ⟨_, long⟩
      · exact .directed cut named
      · exact absurd ⟨found.1, word, cut, oneLine, long⟩ keepsWord

/-- A term that is cut before a word on the line of its last blank is the front and the direction that the
word names, and the usual direction where the word has a long s; any other is a field as a whole. This is
what the term means, but for two kinds of terms: with a line feed in front of the word for a direction,
the word stays in the field and the direction is lost, and a last word with a long s is taken away from
the field though it names no direction. -/
theorem term_read_as_meant (term : String) :
    (∀ front word, IsCut (Text.trim term.toList) front word → '\n' ∉ front →
        (∀ direction : Direction, direction.IsNamedBy word →
          parse term = (String.ofList (Text.trim front), direction)) ∧
        (Direction.HasLongS word → parse term = (String.ofList (Text.trim front), .ascending))) ∧
      ((∀ front word, IsCut (Text.trim term.toList) front word → '\n' ∉ front →
          (∀ direction : Direction, ¬ direction.IsNamedBy word) ∧ ¬ Direction.HasLongS word) →
        parse term = (Text.trimmed term, .ascending)) ∧
      (Means (Text.trim term.toList) (parse term).1.toList (parse term).2 ↔
        ¬ LosesDirection (Text.trim term.toList) ∧ ¬ LosesWord (Text.trim term.toList)) := by
  refine ⟨fun front word cut oneLine => ⟨fun direction named => ?_, fun long => ?_⟩, fun none => ?_,
    means_parse_iff term⟩
  · exact parse_of_isCut cut named.ofWord? oneLine
  · exact parse_of_isCut cut long.ofWord? oneLine
  · apply parse_of_cut?_eq_none
    cases taken : cut? (Text.trim term.toList) with
    | none => rfl
    | some found =>
      obtain ⟨word, cut, read, oneLine⟩ := cut?_eq_some_iff.mp taken
      obtain ⟨unnamed, short⟩ := none found.1 word cut oneLine
      rcases Direction.ofWord?_eq_some_iff.mp read with named | ⟨_, long⟩
      · exact absurd named (unnamed found.2)
      · exact absurd long short

/-- A direction behind a tab and a space, one behind a line feed, and a last word with a long s. -/
theorem term_read_as_meant_exceptions :
    let front := "last name\t".toList
    (IsCut (Text.trim " last name\t dEsC\n".toList) front "dEsC".toList ∧ '\n' ∉ front ∧
        Direction.descending.IsNamedBy "dEsC".toList ∧
        parse " last name\t dEsC\n" = ("last name", .descending)) ∧
      (LosesDirection "a\nb DESC".toList ∧ parse "a\nb DESC" = ("a\nb DESC", .ascending) ∧
        ¬ Means "a\nb DESC".toList "a\nb DESC".toList .ascending) ∧
      LosesWord "a deſc".toList ∧ parse "a deſc" = ("a", .ascending) ∧
        ¬ Means "a deſc".toList "a".toList .ascending := by
  intro front
  have cut : IsCut (Text.trim " last name\t dEsC\n".toList) front "dEsC".toList :=
    ⟨' ', by decide, by decide⟩
  have oneLine : '\n' ∉ front := by decide
  have named : Direction.descending.IsNamedBy "dEsC".toList := by decide
  have directed := ((term_read_as_meant " last name\t dEsC\n").1 front _ cut oneLine).1 _ named
  have feedCut : IsCut "a\nb DESC".toList "a\nb".toList "DESC".toList := ⟨' ', by decide, by decide⟩
  have feed : LosesDirection "a\nb DESC".toList :=
    ⟨_, _, feedCut, by decide, .descending, by decide⟩
  have feedRead : parse "a\nb DESC" = ("a\nb DESC", .ascending) := by decide
  have longCut : IsCut "a deſc".toList "a".toList "deſc".toList := ⟨' ', by decide, by decide⟩
  have long : LosesWord "a deſc".toList :=
    ⟨_, _, longCut, by decide, by decide, .descending, by decide⟩
  have longRead : parse "a deſc" = ("a", .ascending) := by decide
  have feedSaid := (term_read_as_meant "a\nb DESC").2.2
  have longSaid := (term_read_as_meant "a deſc").2.2
  rw [feedRead] at feedSaid
  rw [longRead] at longSaid
  refine ⟨⟨cut, oneLine, named, directed⟩, ⟨feed, feedRead, fun meant => ?_⟩, long, longRead, fun meant => ?_⟩
  · exact (feedSaid.mp meant).1 feed
  · exact (longSaid.mp meant).2 long

end SortTerm

end DocumentQuery
