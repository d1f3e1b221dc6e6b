import AccessDecision.Audit.Disk

/-!
# Writing a file again and again

Where a path leads does not depend on the files that are written.  So a file that can be created
can also be written at its end from then on, and holds what was written there.
-/

namespace AccessDecision

namespace Disk

theorem follow_of_ok {disk : Disk} {path directory : String} {names : List String}
    {place : Place} (leads : disk.follow path directory names = .ok place) (other : Disk) :
    other.follow path directory names = .ok place := by
  fun_induction follow disk path directory names with
  | case1 => cases leads
  | case2 directory rest ih =>
      rw [follow]
      exact ih leads
  | case3 directory rest ih =>
      rw [follow]
      exact ih leads
  | case4 directory name rest notHere notUp inner isInner ih =>
      rw [follow, isInner]
      · exact ih leads
      · exact notHere
      · exact notUp
  | case5 directory name rest notHere notUp isNone isLast =>
      rw [follow, isNone]
      · rw [if_pos isLast]
        exact leads
      · exact notHere
      · exact notUp
  | case6 => cases leads
  | case7 => cases leads
  | case8 => cases leads

theorem locate_of_ok {disk : Disk} {path : String} {place : Place}
    (leads : disk.locate path = .ok place) (other : Disk) : other.locate path = .ok place := by
  rw [locate] at leads ⊢
  split at leads
  · cases leads
  split at leads
  · cases leads
  split at leads
  · cases leads
  next noNull notEmpty short =>
    rw [if_neg noNull, if_neg notEmpty, if_neg short]
    exact follow_of_ok leads other

/-- A path leads to a place where a file can be written. -/
structure Accepts (disk : Disk) (path : String) (place : Place) : Prop where
  leads : disk.locate path = .ok place
  isFile : place.asDirectory = false
  isShort : isLongName place.name = false
  keeps : place.path ≠ nullFile

/-- There is no file with a path, but one can be created. -/
structure Creatable (disk : Disk) (path : String) : Prop where
  isMissing : disk.read path = .error (.missing path)
  opens : ∃ later, disk.append path .empty = .ok later

namespace Accepts

variable {disk : Disk} {path : String} {place : Place}

theorem anywhere (accepts : Accepts disk path place) (other : Disk) :
    Accepts other path place :=
  { accepts with leads := locate_of_ok accepts.leads other }

theorem fileAt?_eq (accepts : Accepts disk path place) (other : Disk) :
    other.fileAt? place.path = other.lookup place.path :=
  if_neg accepts.keeps

theorem append_eq (accepts : Accepts disk path place) (octets : ByteArray) :
    disk.append path octets =
      .ok (Entries.set place.path ((disk.lookup place.path).getD .empty ++ octets) disk) := by
  rw [append, accepts.leads]
  simp [bind, Except.bind, accepts.isFile, accepts.isShort, accepts.keeps, accepts.fileAt?_eq]

theorem read_eq (accepts : Accepts disk path place) {octets : ByteArray}
    (found : disk.lookup place.path = some octets) : disk.read path = .ok octets := by
  rw [read, accepts.leads]
  simp [bind, Except.bind, accepts.isFile, accepts.isShort, accepts.fileAt?_eq, found]

end Accepts

theorem Creatable.accepts {disk : Disk} {path : String} (creatable : disk.Creatable path) :
    ∃ place, Accepts disk path place ∧ disk.lookup place.path = none := by
  obtain ⟨isMissing, later, opens⟩ := creatable
  rw [append] at opens
  rw [read] at isMissing
  cases leads : disk.locate path with
  | error fault =>
      rw [leads] at opens
      cases opens
  | ok place =>
      rw [leads] at opens isMissing
      simp only [bind, Except.bind] at opens isMissing
      split at opens
      · cases opens
      next isFile =>
        split at opens
        · cases opens
        next isShort =>
          rw [if_neg isShort] at isMissing
          by_cases isNull : place.path = nullFile
          · rw [fileAt?, if_pos isNull] at isMissing
            simp [isFile] at isMissing
          · have accepts : Accepts disk path place :=
              ⟨leads, Bool.eq_false_iff.mpr isFile, Bool.eq_false_iff.mpr isShort,
                isNull⟩
            rw [accepts.fileAt?_eq] at isMissing
            cases found : disk.lookup place.path with
            | none => exact ⟨place, accepts, found⟩
            | some octets =>
                rw [found] at isMissing
                simp [isFile] at isMissing

end Disk

end AccessDecision
