import AccessDecision.Proofs.Entries
import AccessDecision.Proofs.Text.LetterCase
import AccessDecision.Settings

/-!
# Loading settings and looking them up

Loading collects all variables whose names have a start, under the small form of what follows
it; the last variable for a key counts.  Looking up asks for the one variable whose name is the
start and the capital form of the key.  The two agree where the capital and the small form undo
each other.
-/

namespace AccessDecision

namespace Environment

variable {environment : Environment} {start key text : String}

/-- A name stands for a key if it is the start and a text whose small form is the key. -/
def NamedFor (start key name : String) : Prop :=
  ∃ rest, name = start ++ rest ∧ Text.smallLetters rest = key

/-- A text is that of the last variable whose name stands for a key. -/
def LastFor (environment : Environment) (start key text : String) : Prop :=
  ∃ before name after, environment = before ++ (name, text) :: after ∧
    NamedFor start key name ∧ ∀ later ∈ after, ¬ NamedFor start key later.1

section Making

theorem names_ofList (entries : List (String × String)) :
    (ofList entries).map Prod.fst = (entries.map Prod.fst).eraseDups := by
  have names := (Entries.overlaid_ofList entries).names
  simpa [ofList] using names

theorem lookup_ofList (entries : List (String × String)) (name : String) :
    (ofList entries).lookup name = entries.reverse.lookup name := by
  have values := (Entries.overlaid_ofList entries).values name
  rwa [List.lookup_nil, Option.or_none] at values

theorem nodup_ofList (entries : List (String × String)) :
    ((ofList entries).map Prod.fst).Nodup :=
  Entries.nodup_ofList entries

end Making

section Loading

theorem afterStart?_eq_some_iff {name rest : String} :
    afterStart? start name = some rest ↔ name = start ++ rest := by
  rw [afterStart?, ← String.toList_inj, String.toList_append]
  split
  · next starts =>
      obtain ⟨others, isRest⟩ := List.isPrefixOf_iff_prefix.mp starts
      rw [← isRest, ← String.length_toList, List.drop_left, Option.some.injEq,
        List.append_cancel_left_eq, ← String.toList_inj, String.toList_ofList]
  · next strays =>
      refine ⟨nofun, fun isName => absurd ?_ strays⟩
      rw [isName, List.isPrefixOf_iff_prefix]
      exact List.prefix_append _ _

/-- What loading makes of a variable for a key. -/
def loaded? (start key : String) (entry : String × String) : Option Value :=
  (afterStart? start entry.1).bind fun rest =>
    if key = Text.smallLetters rest then some (.text entry.2) else none

theorem loaded?_eq_some_iff {entry : String × String} {value : Value} :
    loaded? start key entry = some value ↔
      NamedFor start key entry.1 ∧ value = .text entry.2 := by
  simp only [loaded?, Option.bind_eq_some_iff, afterStart?_eq_some_iff, NamedFor,
    Option.ite_none_right_eq_some, Option.some.injEq]
  constructor
  · rintro ⟨rest, isName, rfl, rfl⟩
    exact ⟨⟨rest, isName, rfl⟩, rfl⟩
  · rintro ⟨⟨rest, isName, rfl⟩, rfl⟩
    exact ⟨rest, isName, rfl, rfl⟩

theorem loaded?_eq_none_iff {entry : String × String} :
    loaded? start key entry = none ↔ ¬ NamedFor start key entry.1 := by
  rw [Option.eq_none_iff_forall_ne_some]
  simp [loaded?_eq_some_iff]

theorem get?_load (environment : Environment) (start key : String) :
    (environment.load start).get? key = environment.reverse.findSome? (loaded? start key) := by
  -- A key that is set again is replaced, so the first variable for it counts from the end.
  rw [Fields.get?, load, (Entries.overlaid_ofList _).values, ← List.filterMap_reverse,
    List.lookup_nil, Option.or_none]
  induction environment.reverse with
  | nil => rfl
  | cons entry rest ih =>
      obtain ⟨name, text⟩ := entry
      simp only [List.filterMap_cons, List.findSome?_cons, loaded?]
      cases afterStart? start name with
      | none => exact ih
      | some after =>
          simp only [Option.map_some, Option.bind_some, Entries.lookup_cons, ih]
          by_cases same : key = Text.smallLetters after <;> simp [same]

theorem get?_load_eq_some_iff {value : Value} :
    (environment.load start).get? key = some value ↔
      ∃ text, value = .text text ∧ environment.LastFor start key text := by
  rw [get?_load, List.findSome?_eq_some_iff]
  constructor
  · rintro ⟨after, ⟨name, text⟩, before, split, gives, others⟩
    obtain ⟨isNamed, rfl⟩ := loaded?_eq_some_iff.mp gives
    refine ⟨text, rfl, before.reverse, name, after.reverse, ?_, isNamed, fun later member => ?_⟩
    · rw [← List.reverse_reverse environment, split]
      simp
    · exact loaded?_eq_none_iff.mp (others later (List.mem_reverse.mp member))
  · rintro ⟨text, rfl, before, name, after, rfl, isNamed, others⟩
    refine ⟨after.reverse, (name, text), before.reverse, by simp,
      loaded?_eq_some_iff.mpr ⟨isNamed, rfl⟩, fun later member => ?_⟩
    exact loaded?_eq_none_iff.mpr (others later (List.mem_reverse.mp member))

/-- A key is absent if no variable stands for it. -/
theorem get?_load_eq_none_iff :
    (environment.load start).get? key = none ↔
      ∀ entry ∈ environment, ¬ NamedFor start key entry.1 := by
  simp [get?_load, loaded?_eq_none_iff]

end Loading

section LookingUp

/-- What follows the start in each name is a capital text. -/
def Capitalized (environment : Environment) (start : String) : Prop :=
  ∀ entry ∈ environment, ∀ rest, entry.1 = start ++ rest → Text.IsCapital rest

instance (environment : Environment) (start : String) :
    Decidable (environment.Capitalized start) :=
  decidable_of_iff
    (∀ entry ∈ environment, ∀ rest ∈ afterStart? start entry.1, Text.IsCapital rest)
    (by simp [Capitalized, afterStart?_eq_some_iff])

theorem Capitalized.eq_of_namedFor (capitalized : environment.Capitalized start)
    {entry : String × String} (member : entry ∈ environment)
    (named : NamedFor start key entry.1) : entry.1 = start ++ Text.capitals key := by
  obtain ⟨rest, isName, rfl⟩ := named
  rw [Text.capitals_smallLetters (capitalized entry member rest isName), isName]

/-- Where names are capitalized, loading and looking up give the same. -/
theorem Capitalized.get?_load (capitalized : environment.Capitalized start)
    (distinct : (environment.map Prod.fst).Nodup) (small : Text.IsSmall key) :
    (environment.load start).get? key = (environment.get? start key).map Value.text := by
  cases found : (environment.load start).get? key with
  | none =>
      have absent : environment.get? start key = none := by
        rw [get?, List.lookup_eq_none_iff]
        intro entry member
        have unnamed := get?_load_eq_none_iff.mp found entry member
        rw [bne_iff_ne]
        exact fun isName => unnamed ⟨_, isName.symm, Text.smallLetters_capitals small⟩
      rw [absent]
      rfl
  | some value =>
      obtain ⟨text, rfl, before, name, after, rfl, named, -⟩ := get?_load_eq_some_iff.mp found
      have member : (name, text) ∈ before ++ (name, text) :: after := by simp
      have isName : name = start ++ Text.capitals key := capitalized.eq_of_namedFor member named
      rw [get?, ← isName, Entries.lookup_of_mem distinct member]
      rfl

end LookingUp

end Environment

namespace Settings

def flagOf (otherwise : Value) : Option Value → Value
  | some (.text given) => .bool (Cast.isYes given)
  | _ => otherwise

/-- The settings that loaded variables give, by what is found for a key. -/
def ofLoaded (find : String → Option Value) : Settings where
  checkerName := (find "checker_name").getD standard.checkerName
  auditEnabled := flagOf standard.auditEnabled (find "audit_enabled")
  logTraces := flagOf standard.logTraces (find "log_traces")
  metricsEnabled := flagOf standard.metricsEnabled (find "metrics_enabled")

end Settings

namespace Environment

namespace Capitalized

variable {environment : Environment} {start key : String}

theorem value_eq (capitalized : environment.Capitalized start)
    (distinct : (environment.map Prod.fst).Nodup) (small : Text.IsSmall key)
    (standard : Value) :
    environment.value start key standard none =
      ((environment.load start).get? key).getD standard := by
  rw [capitalized.get?_load distinct small]
  cases found : environment.get? start key <;> simp [value, found]

theorem flag_eq (capitalized : environment.Capitalized start)
    (distinct : (environment.map Prod.fst).Nodup) (small : Text.IsSmall key)
    (standard : Value) :
    environment.value start key standard (some .flag) =
      Settings.flagOf standard ((environment.load start).get? key) := by
  rw [capitalized.get?_load distinct small]
  cases found : environment.get? start key <;> simp [value, found, Cast.apply, Settings.flagOf]

theorem ofEnvironment_eq (capitalized : environment.Capitalized standardStart)
    (distinct : (environment.map Prod.fst).Nodup) :
    Settings.ofEnvironment environment =
      Settings.ofLoaded (environment.load standardStart).get? := by
  have flag {key : String} (small : Text.IsSmall key) (standard : Value) :=
    capitalized.flag_eq distinct small standard
  simp only [Settings.ofEnvironment, Settings.ofLoaded]
  rw [capitalized.value_eq distinct (by decide), flag (by decide),
    flag (by decide), flag (by decide)]

end Capitalized

/-- In an environment a name that is set again keeps its place and takes its last value.  Loading
gives each key the text of the last variable whose name is the start and a text with that small
form, and no value if there is none.  If what follows the standard start consists of plain
characters without small letters, no two names stand for one key, a small key is looked up as it
is loaded, and the settings follow from what is loaded. -/
theorem readers_agree (entries : List (String × String)) :
    ((ofList entries).map Prod.fst = (entries.map Prod.fst).eraseDups ∧
      ∀ name, (ofList entries).lookup name = entries.reverse.lookup name) ∧
    (∀ start, ∃ loaded, (ofList entries).loadFrom (.text start) = .ok loaded ∧
      ∀ key,
        (∀ value, loaded.get? key = some value ↔
          ∃ text, value = .text text ∧ (ofList entries).LastFor start key text) ∧
        (loaded.get? key = none ↔
          ∀ entry ∈ ofList entries, ¬ NamedFor start key entry.1)) ∧
    ((ofList entries).Capitalized standardStart →
      (∀ key, ∀ first ∈ ofList entries, ∀ second ∈ ofList entries,
        NamedFor standardStart key first.1 → NamedFor standardStart key second.1 →
          first.1 = second.1) ∧
      ∃ loaded, (ofList entries).loadFrom (.text standardStart) = .ok loaded ∧
        (∀ key, Text.IsSmall key → ∀ standard,
          (ofList entries).valueOf (.text standardStart) (.text key) standard none =
            .ok ((loaded.get? key).getD standard)) ∧
        Settings.ofEnvironment (ofList entries) = Settings.ofLoaded loaded.get?) := by
  refine ⟨⟨names_ofList entries, lookup_ofList entries⟩, fun start => ?_, fun capitalized => ?_⟩
  · exact ⟨_, rfl, fun key => ⟨fun value => get?_load_eq_some_iff, get?_load_eq_none_iff⟩⟩
  have distinct := nodup_ofList entries
  refine ⟨fun key first isFirst second isSecond named namedToo => ?_, _, rfl,
    fun key small standard => ?_, capitalized.ofEnvironment_eq distinct⟩
  · exact (capitalized.eq_of_namedFor isFirst named).trans
      (capitalized.eq_of_namedFor isSecond namedToo).symm
  · exact congrArg Except.ok (capitalized.value_eq distinct small standard)

def repeatedEntries : List (String × String) :=
  [("GATEHOUSE_CHECKER_NAME", "first"), ("HOME", "/"), ("GATEHOUSE_CHECKER_NAME", "last")]

theorem readers_agree_repeated :
    (ofList repeatedEntries).Capitalized standardStart ∧ Text.IsSmall "checker_name" ∧
    (ofList repeatedEntries).valueOf (.text standardStart) (.text "checker_name") .null none =
      .ok (.text "last") ∧
    (Settings.ofEnvironment (ofList repeatedEntries)).checkerName = .text "last" := by
  have capitalized : (ofList repeatedEntries).Capitalized standardStart := by decide
  have small : Text.IsSmall "checker_name" := by decide
  have isSmall : Text.smallLetters "CHECKER_NAME" = "checker_name" := by decide +kernel
  have strays : loaded? standardStart "checker_name" ("HOME", "/") = none := rfl
  obtain ⟨-, loads, agree⟩ := readers_agree repeatedEntries
  obtain ⟨loaded, isLoaded, keys⟩ := loads standardStart
  obtain ⟨-, again, isLoadedToo, values, settings⟩ := agree capitalized
  cases isLoaded.symm.trans isLoadedToo
  have last : loaded.get? "checker_name" = some (.text "last") :=
    ((keys "checker_name").1 _).mpr
      ⟨"last", rfl, [], "GATEHOUSE_CHECKER_NAME", [("HOME", "/")], rfl,
        ⟨"CHECKER_NAME", rfl, isSmall⟩, by simpa using loaded?_eq_none_iff.mp strays⟩
  refine ⟨capitalized, small, ?_, ?_⟩
  · rw [values "checker_name" small .null, last]
    rfl
  · rw [settings, Settings.ofLoaded, last]
    rfl

end Environment

end AccessDecision
