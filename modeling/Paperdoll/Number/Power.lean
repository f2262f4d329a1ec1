/-!
# Powers

The core library has its own power of natural numbers and integers, and a library of algebra
brings another one, equal to it but written differently. `2 ^ 31` shall mean the same here
whatever else is imported, so the power of the core library goes first.
-/

attribute [instance (10000), default_instance (20000)] instPowNat
