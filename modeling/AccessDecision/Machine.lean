/-!
# Machines

How far a machine goes depends on the machine, and no rule of access control depends on how
far that is.  What reads, refers or renders takes the bounds of its machine as they are.
-/

namespace AccessDecision

structure Machine where
  /-- How deep lists and objects of a file can be nested in one another. -/
  nesting : Nat
  /-- How often a request may be referred from one checker to the next. -/
  referrals : Nat
  /-- The widest indentation for which there is room. -/
  indentation : Int

/-- A machine with the usual room for calls within calls and for texts. -/
def Machine.ordinary : Machine where
  nesting := 982
  referrals := 978
  indentation := Int.pow 2 46

end AccessDecision
