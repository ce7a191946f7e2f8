/-!
Powers of whole numbers.

A power is the built-in one wherever it is written, also next to a theory that knows powers in every
monoid. So the definitions that are run and the statements about them speak of the same powers.
-/

attribute [instance(2000), default_instance 20000] instPowNat
