import AccessDecision.Policy.Evaluation

/-!
# Formulas and inquiries

A Boolean formula combines atoms.  Deciding it from left to right, without asking for more
than it takes, is an inquiry: a tree of questions about atoms in which every answer leads to
the next question or settles the outcome.  The inquiry of a formula is written with two
continuations, one for each outcome, so no question is asked where the formula is settled.

The main statements say that an inquiry comes to the value of its formula, whatever the
atoms that it did not ask for are worth, and that it asks for the atoms in their order from
left to right, for none of them twice.
-/

namespace AccessDecision

/-- A Boolean formula over atoms. -/
inductive Formula (α : Type) where
  | constant (value : Bool)
  | atom (symbol : α)
  | both (first second : Formula α)
  | either (first second : Formula α)
  | negation (part : Formula α)

/-- Questions about atoms, each followed by an inquiry for either answer. -/
inductive Inquiry (α : Type) where
  | settled (outcome : Bool)
  | ask (atom : α) (ifTrue ifFalse : Inquiry α)

namespace Formula

variable {α : Type}

/-- The value of a formula under a valuation of all its atoms. -/
def value (valuation : α → Bool) : Formula α → Bool
  | .constant value => value
  | .atom symbol => valuation symbol
  | .both first second => first.value valuation && second.value valuation
  | .either first second => first.value valuation || second.value valuation
  | .negation part => !part.value valuation

def atoms : Formula α → List α
  | .constant _ => []
  | .atom symbol => [symbol]
  | .both first second | .either first second => first.atoms ++ second.atoms
  | .negation part => part.atoms

/-- Two formulas under a connective.  A negation concerns the first. -/
def join : Connective → Formula α → Formula α → Formula α
  | .and, first, second => .both first second
  | .or, first, second => .either first second
  | .not, first, _ => .negation first

/-- Decide a formula from left to right and go on by its outcome. -/
def inquire (ifTrue ifFalse : Inquiry α) : Formula α → Inquiry α
  | .constant value => if value then ifTrue else ifFalse
  | .atom symbol => .ask symbol ifTrue ifFalse
  | .both first second => first.inquire (second.inquire ifTrue ifFalse) ifFalse
  | .either first second => first.inquire ifTrue (second.inquire ifTrue ifFalse)
  | .negation part => part.inquire ifFalse ifTrue

def inquiry (formula : Formula α) : Inquiry α :=
  formula.inquire (.settled true) (.settled false)

end Formula

namespace Inquiry

variable {α : Type}

def decide (valuation : α → Bool) : Inquiry α → Bool
  | .settled outcome => outcome
  | .ask atom ifTrue ifFalse =>
      if valuation atom then ifTrue.decide valuation else ifFalse.decide valuation

/-- An inquiry asks for some atoms in order, and the answers lead to another inquiry. -/
inductive Leads : Inquiry α → List (α × Bool) → Inquiry α → Prop where
  | here (inquiry : Inquiry α) : Leads inquiry [] inquiry
  | answer {atom : α} {ifTrue ifFalse last : Inquiry α} {answers : List (α × Bool)}
      (outcome : Bool) (rest : Leads (if outcome then ifTrue else ifFalse) answers last) :
      Leads (.ask atom ifTrue ifFalse) ((atom, outcome) :: answers) last

/-- An inquiry asks for atoms of a list only, in their order and for none of them twice. -/
inductive Within : List α → Inquiry α → Prop where
  | settled (outcome : Bool) : Within [] (.settled outcome)
  | ask {atom : α} {later : List α} {ifTrue ifFalse : Inquiry α}
      (granted : Within later ifTrue) (denied : Within later ifFalse) :
      Within (atom :: later) (.ask atom ifTrue ifFalse)
  | skip {later : List α} {inquiry : Inquiry α} (atom : α) (rest : Within later inquiry) :
      Within (atom :: later) inquiry

theorem Leads.trans {first second third : Inquiry α} {answers later : List (α × Bool)}
    (leads : first.Leads answers second) (onwards : second.Leads later third) :
    first.Leads (answers ++ later) third := by
  induction leads with
  | here inquiry => exact onwards
  | answer outcome _ ih => exact .answer outcome (ih onwards)

theorem decide_of_leads {valuation : α → Bool} {inquiry last : Inquiry α}
    {answers : List (α × Bool)} (leads : inquiry.Leads answers last)
    (agrees : ∀ answer ∈ answers, valuation answer.1 = answer.2) :
    inquiry.decide valuation = last.decide valuation := by
  induction leads with
  | here inquiry => rfl
  | @answer atom ifTrue ifFalse last answers outcome rest ih =>
      have asked : valuation atom = outcome := agrees (atom, outcome) (by simp)
      have later := ih fun answer member => agrees answer (by simp [member])
      rw [← later, decide, asked]
      cases outcome <;> rfl

theorem Within.append {atoms : List α} {inquiry : Inquiry α} (within : Within atoms inquiry)
    (before : List α) : Within (before ++ atoms) inquiry := by
  induction before with
  | nil => exact within
  | cons atom before ih => exact .skip atom ih

theorem Within.sublist {atoms : List α} {inquiry last : Inquiry α}
    {answers : List (α × Bool)} (within : Within atoms inquiry)
    (leads : inquiry.Leads answers last) :
    (answers.map Prod.fst).Sublist atoms := by
  induction within generalizing answers with
  | settled outcome =>
      cases leads
      exact List.nil_sublist _
  | ask _ _ grantedIH deniedIH =>
      cases leads with
      | here => exact List.nil_sublist _
      | answer outcome rest =>
          cases outcome with
          | true => exact (grantedIH rest).cons_cons _
          | false => exact (deniedIH rest).cons_cons _
  | skip atom _ ih => exact (ih leads).cons atom

end Inquiry

namespace Formula

variable {α : Type}

theorem atoms_join {operation : Connective} (isBinary : operation ≠ .not)
    (first second : Formula α) :
    (join operation first second).atoms = first.atoms ++ second.atoms := by
  cases operation with
  | and => rfl
  | or => rfl
  | not => exact absurd rfl isBinary

/-- The first of two formulas is asked about; the second only if the first settles
nothing. -/
theorem inquire_join {operation : Connective} (isBinary : operation ≠ .not)
    (first second : Formula α) (ifTrue ifFalse : Inquiry α) :
    (join operation first second).inquire ifTrue ifFalse =
      first.inquire
        (if operation.settledBy true then ifTrue else second.inquire ifTrue ifFalse)
        (if operation.settledBy false then ifFalse
          else second.inquire ifTrue ifFalse) := by
  cases operation with
  | and => rfl
  | or => rfl
  | not => exact absurd rfl isBinary

theorem decide_inquire (valuation : α → Bool) (formula : Formula α)
    (ifTrue ifFalse : Inquiry α) :
    (formula.inquire ifTrue ifFalse).decide valuation =
      if formula.value valuation then ifTrue.decide valuation
      else ifFalse.decide valuation := by
  induction formula generalizing ifTrue ifFalse with
  | constant value => cases value <;> rfl
  | atom symbol => rfl
  | both first second firstIH secondIH =>
      rw [inquire, firstIH, secondIH, value]
      cases first.value valuation <;> rfl
  | either first second firstIH secondIH =>
      rw [inquire, firstIH, secondIH, value]
      cases first.value valuation <;> rfl
  | negation part ih =>
      rw [inquire, ih, value]
      cases part.value valuation <;> rfl

/-- Where an inquiry ends is the value of its formula, whatever the atoms that it did not
ask for are worth. -/
theorem value_of_leads {valuation : α → Bool} {formula : Formula α}
    {answers : List (α × Bool)} {outcome : Bool}
    (leads : formula.inquiry.Leads answers (.settled outcome))
    (agrees : ∀ answer ∈ answers, valuation answer.1 = answer.2) :
    formula.value valuation = outcome := by
  have same := Inquiry.decide_of_leads leads agrees
  rw [inquiry, decide_inquire] at same
  simpa [Inquiry.decide] using same

theorem within_inquire {atoms : List α} {ifTrue ifFalse : Inquiry α} (formula : Formula α)
    (granted : ifTrue.Within atoms) (denied : ifFalse.Within atoms) :
    (formula.inquire ifTrue ifFalse).Within (formula.atoms ++ atoms) := by
  induction formula generalizing ifTrue ifFalse atoms with
  | constant value =>
      cases value with
      | true => exact granted
      | false => exact denied
  | atom symbol => exact .ask granted denied
  | both first second firstIH secondIH =>
      rw [Formula.atoms, List.append_assoc]
      exact firstIH (secondIH granted denied) (denied.append _)
  | either first second firstIH secondIH =>
      rw [Formula.atoms, List.append_assoc]
      exact firstIH (granted.append _) (secondIH granted denied)
  | negation part ih => exact ih denied granted

/-- An inquiry asks for atoms in their order from left to right, for none of them twice. -/
theorem sublist_of_leads {formula : Formula α} {answers : List (α × Bool)}
    {last : Inquiry α} (leads : formula.inquiry.Leads answers last) :
    (answers.map Prod.fst).Sublist formula.atoms := by
  have within := formula.within_inquire (.settled true) (.settled false)
  rw [List.append_nil] at within
  exact within.sublist leads

theorem mem_atoms_of_leads {formula : Formula α} {answers : List (α × Bool)} {symbol : α}
    {ifTrue ifFalse : Inquiry α}
    (leads : formula.inquiry.Leads answers (.ask symbol ifTrue ifFalse)) :
    symbol ∈ formula.atoms := by
  have onwards := leads.trans (.answer true (.here ifTrue))
  exact (sublist_of_leads onwards).mem (by simp)

end Formula

end AccessDecision
