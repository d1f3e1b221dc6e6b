import AccessDecision.Proofs.Result.Codes
import AccessDecision.Proofs.Result.Construction

/-!
# Outlines of results

A result is rendered by rendering its children first and joining what they give, several lines at a
time.  The same text is a list of lines, one for each node: the nodes stand in the order in which
each comes before those below it, and the indentation of a node is told by its depth alone.  The
outcomes that are kept on the way do not matter either, since every mark is that of the formula
over the leaves.
-/

namespace AccessDecision

namespace Result

/-- A result that the constructors give. -/
inductive Made : Result → Prop where
  | granted (policy reason : Value) : Made (.granted policy reason)
  | denied (policy reason : Value) : Made (.denied policy reason)
  | combined {policy declared outcome : Value} {operation : Connective} {children : List Result}
      (declares : declare policy operation children declared =
        .ok (.combined policy operation children outcome))
      (parts : ∀ child ∈ children, Made child) :
      Made (.combined policy operation children outcome)

theorem Made.truthful {result : Result} (made : result.Made) : result.Truthful := by
  induction made with
  | granted policy reason => exact truthful_granted policy reason
  | denied policy reason => exact truthful_denied policy reason
  | combined declares parts ih => exact truthful_combined ih (truthy_of_declare declares)

end Result

namespace Description

theorem made_of_parts {children : List Description} {results : List Result}
    (members : ∀ child ∈ children, ∀ result, child.Draws result → result.Made)
    (parts : List.Forall₂ Draws children results) : ∀ result ∈ results, result.Made := by
  induction parts with
  | nil => exact List.forall_mem_nil _
  | cons draws _ ih =>
      rw [List.forall_mem_cons] at members ⊢
      exact ⟨members.1 _ draws, ih members.2⟩

theorem Draws.made {description : Description} {result : Result}
    (draws : description.Draws result) (fit : ∀ node ∈ description.nodes, node.Fits) :
    result.Made := by
  induction description using inductionOnParts generalizing result with
  | nothing => cases draws
  | granted policy reason =>
      cases draws
      exact .granted policy reason
  | denied policy reason =>
      cases draws
      exact .denied policy reason
  | childless policy operation outcome => cases draws
  | combined policy operation children outcome ih =>
      rw [nodes, List.forall_mem_append, List.forall_mem_singleton, nodesBelow_eq] at fit
      obtain ⟨below, here⟩ := fit
      cases draws with
      | @combined _ _ _ connective _ results named parts =>
          have made : ∀ result ∈ results, result.Made :=
            made_of_parts (fun child isChild result draws => ih child isChild draws
              fun node isNode => below node (List.mem_flatMap.mpr ⟨child, isChild, isNode⟩)) parts
          have same := isGranted_of_draws parts fun result member => (made result member).truthful
          cases here with
          | combined namedToo takes whole agrees =>
              cases named.symm.trans namedToo
              rw [← same] at agrees
              rw [parts.length_eq] at takes
              exact .combined (Result.declare_of_agrees policy takes agrees) made

theorem made_of_build {description : Description} {result : Result}
    (builds : description.build = .ok (some result)) : result.Made := by
  have ends := description.build_ends
  rw [builds] at ends
  cases ends with
  | built gives =>
      cases gives with
      | result fit draws _ => exact draws.made fit

end Description

namespace Result

mutual

/-- All nodes of a result with their depths, each before those below it. -/
def outline (depth : Nat) : Result → List (Nat × Result)
  | .granted policy reason => [(depth, .granted policy reason)]
  | .denied policy reason => [(depth, .denied policy reason)]
  | .combined policy operation children outcome =>
      (depth, .combined policy operation children outcome) :: outlineBelow (depth + 1) children

def outlineBelow (depth : Nat) : List Result → List (Nat × Result)
  | [] => []
  | child :: rest => child.outline depth ++ outlineBelow depth rest

end

/-- The line of a node at a depth: its spaces, the mark of the formula of the leaves below it,
and its label. -/
def outlineLine (indent : Int) (place : Nat × Result) : List Char :=
  List.replicate (indent + 2 * place.1).toNat ' ' ++
    mark (place.2.formula.value id) :: ' ' :: place.2.label.toList

def outlineLines (indent : Int) (result : Result) : List (List Char) :=
  (result.outline 0).map (outlineLine indent)

/-- The lines of a result, joined by line ends. -/
def outlineText (indent : Int) (result : Result) : String :=
  String.ofList (['\n'].intercalate (result.outlineLines indent))

section Order

theorem outlineBelow_eq (depth : Nat) (children : List Result) :
    outlineBelow depth children = children.flatMap (outline depth) := by
  induction children with
  | nil => rfl
  | cons first rest ih => rw [outlineBelow, ih, List.flatMap_cons]

theorem map_snd_outline (result : Result) (depth : Nat) :
    (result.outline depth).map Prod.snd = result.nodes := by
  induction result using inductionOnParts generalizing depth with
  | granted policy reason => rfl
  | denied policy reason => rfl
  | combined policy operation children outcome ih =>
      rw [outline, List.map_cons, outlineBelow_eq, List.map_flatMap, nodes, nodesBelow_eq]
      exact congrArg _ (List.flatMap_congr fun child isChild => ih child isChild (depth + 1))

theorem snd_mem_nodes {result : Result} {depth : Nat} {place : Nat × Result}
    (isPlace : place ∈ result.outline depth) : place.2 ∈ result.nodes := by
  rw [← map_snd_outline result depth]
  exact List.mem_map_of_mem isPlace

end Order

section Characters

theorem charactersBelow_eq (indent : Int) (children : List Result) :
    charactersBelow indent children =
      children.flatMap fun child => '\n' :: child.characters indent := by
  induction children with
  | nil => simp [charactersBelow]
  | cons first rest ih => rw [charactersBelow, ih, List.flatMap_cons, List.cons_append]

/-- A line end before what is rendered of a result is a line end before each of its lines.  In this
form the lines of the children need only be put behind one another. -/
theorem characters_eq_flatMap (result : Result) (indent : Int) (depth : Nat) :
    '\n' :: result.characters (indent + 2 * depth) =
      (result.outline depth).flatMap fun place =>
        '\n' :: nodeLine (indent + 2 * place.1) place.2 := by
  -- The depth is generalised: children stand one deeper under the same indentation.
  induction result using inductionOnParts generalizing depth with
  | granted policy reason => simp [characters, outline]
  | denied policy reason => simp [characters, outline]
  | combined policy operation children outcome ih =>
      have deeper : indent + 2 * depth + 2 = indent + 2 * ((depth + 1 : Nat) : Int) := by omega
      have below : children.flatMap (fun child => '\n' :: child.characters (indent + 2 * depth + 2))
          = children.flatMap fun child => (child.outline (depth + 1)).flatMap fun place =>
            '\n' :: nodeLine (indent + 2 * place.1) place.2 :=
        List.flatMap_congr fun child isChild => by rw [deeper, ih child isChild]
      rw [characters, charactersBelow_eq, below, outline, outlineBelow_eq, List.flatMap_cons,
        List.flatMap_assoc, List.cons_append]

theorem flatMap_lineEnd (lines : List (List Char)) (filled : lines ≠ []) :
    lines.flatMap (fun line => '\n' :: line) = '\n' :: ['\n'].intercalate lines := by
  induction lines with
  | nil => exact absurd rfl filled
  | cons line rest ih =>
      cases rest with
      | nil => simp
      | cons next others =>
          rw [List.flatMap_cons, ih (List.cons_ne_nil next others),
            List.intercalate_cons_cons, List.cons_append, List.append_assoc,
            List.singleton_append]

theorem outlineLines_ne_nil (result : Result) (indent : Int) : result.outlineLines indent ≠ [] := by
  cases result <;> simp [outlineLines, outline]

/-- The marks of a truthful result are those of the formulas. -/
theorem nodeLine_of_truthful {result : Result} (truthful : result.Truthful) (indent : Int)
    {place : Nat × Result} (isPlace : place ∈ result.outline 0) :
    nodeLine (indent + 2 * place.1) place.2 = outlineLine indent place := by
  rw [nodeLine, outlineLine, truthful place.2 (snd_mem_nodes isPlace)]

theorem render_eq_outlineText {result : Result} (truthful : result.Truthful) (indent : Int) :
    result.render indent = result.outlineText indent := by
  have lines : (result.outline 0).flatMap (fun place =>
      '\n' :: nodeLine (indent + 2 * place.1) place.2) =
        (result.outlineLines indent).flatMap fun line => '\n' :: line := by
    rw [outlineLines, List.flatMap_map]
    exact List.flatMap_congr fun place isPlace => by
      rw [nodeLine_of_truthful truthful indent isPlace]
  have joined := result.characters_eq_flatMap indent 0
  rw [lines, flatMap_lineEnd _ (result.outlineLines_ne_nil indent)] at joined
  have same := (List.cons.inj joined).2
  rw [Int.natCast_zero, Int.mul_zero, Int.add_zero] at same
  rw [render, outlineText, same]

end Characters

section Lines

/-- Whether no text of a result shows a line end. -/
def Unbroken (result : Result) : Prop :=
  ∀ value ∈ result.texts, '\n' ∉ value.display.toList

theorem Unbroken.node {result node : Result} (unbroken : result.Unbroken)
    (isNode : node ∈ result.nodes) : node.Unbroken := by
  induction result using inductionOnParts with
  | granted policy reason =>
      rw [nodes, List.mem_singleton] at isNode
      rwa [isNode]
  | denied policy reason =>
      rw [nodes, List.mem_singleton] at isNode
      rwa [isNode]
  | combined policy operation children outcome ih =>
      rw [nodes, List.mem_cons, nodesBelow_eq, List.mem_flatMap] at isNode
      rcases isNode with rfl | ⟨child, isChild, isBelow⟩
      · exact unbroken
      · refine ih child isChild ?_ isBelow
        intro value isText
        exact unbroken value (List.mem_cons_of_mem policy (mem_textsOfAll isChild isText))

theorem Unbroken.label {result : Result} (unbroken : result.Unbroken) :
    '\n' ∉ result.label.toList := by
  cases result with
  | granted policy reason =>
      have name := unbroken policy (by simp [texts])
      have after : '\n' ∉ (reason.displayAfter ": ").toList := by
        by_cases isNull : reason = .null
        · rw [isNull]
          exact List.not_mem_nil
        · have shown := unbroken reason (by simp [texts, Value.mem_present? isNull])
          rw [Value.displayAfter_of_ne_null ": " isNull, String.toList_append, List.mem_append,
            not_or]
          exact ⟨by decide, shown⟩
      simp only [Result.label, String.toList_append, List.mem_append, not_or]
      exact ⟨⟨name, by decide⟩, after⟩
  | denied policy reason =>
      have name := unbroken policy (by simp [texts])
      have shown := unbroken reason (by simp [texts])
      simp only [Result.label, String.toList_append, List.mem_append, not_or]
      exact ⟨⟨name, by decide⟩, shown⟩
  | combined policy operation children outcome =>
      have name := unbroken policy (by simp [texts])
      have word : '\n' ∉ operation.label.toList := by
        cases operation <;> decide
      simp only [Result.label, String.toList_append, List.mem_append, not_or]
      exact ⟨⟨⟨name, by decide⟩, word⟩, by decide⟩

theorem lineEnd_not_mem_outlineLine (indent : Int) {place : Nat × Result}
    (unbroken : place.2.Unbroken) : '\n' ∉ outlineLine indent place := by
  have outcome : '\n' ≠ mark (place.2.formula.value id) := by
    cases place.2.formula.value id <;> decide
  rw [outlineLine, List.mem_append, List.mem_cons, List.mem_cons, not_or, not_or, not_or]
  exact ⟨fun isSpace => absurd (List.eq_of_mem_replicate isSpace) (by decide), outcome,
    by decide, unbroken.label⟩

/-- Where no text shows a line end, the lines of the text are those of the nodes. -/
theorem splitOn_outlineText {result : Result} (unbroken : result.Unbroken) (indent : Int) :
    (result.outlineText indent).toList.splitOn '\n' = result.outlineLines indent := by
  have clean : ∀ line ∈ result.outlineLines indent, '\n' ∉ line := by
    intro line isLine
    obtain ⟨place, isPlace, rfl⟩ := List.mem_map.mp isLine
    exact lineEnd_not_mem_outlineLine indent (unbroken.node (snd_mem_nodes isPlace))
  rw [outlineText, String.toList_ofList]
  exact List.splitOn_intercalate '\n' clean (result.outlineLines_ne_nil indent)

theorem length_outlineLines (result : Result) (indent : Int) :
    (result.outlineLines indent).length = result.nodes.length := by
  rw [outlineLines, List.length_map, ← map_snd_outline result 0, List.length_map]

theorem outlineLine_of_nonneg {indent : Int} (nonneg : 0 ≤ indent) (place : Nat × Result) :
    outlineLine indent place = List.replicate indent.toNat ' ' ++ outlineLine 0 place := by
  have spaces : (indent + 2 * (place.1 : Int)).toNat =
      indent.toNat + (0 + 2 * (place.1 : Int)).toNat := by omega
  rw [outlineLine, outlineLine, spaces, List.replicate_add, List.append_assoc]

theorem outlineLines_of_nonneg {indent : Int} (nonneg : 0 ≤ indent) (result : Result) :
    result.outlineLines indent =
      (result.outlineLines 0).map (List.replicate indent.toNat ' ' ++ ·) := by
  rw [outlineLines, outlineLines, List.map_map]
  exact List.map_congr_left fun place _ => outlineLine_of_nonneg nonneg place

end Lines

/-- A result is rendered as the lines of its outline, unless the language refuses to repeat a space
as often as the indentation says, or there is no room for that.  Where no text shows a line end
there is one line for each node, and an indentation that is not negative only puts its spaces
before every line. -/
theorem renderAt_eq_outlineText {result : Result} (made : result.Made) (widest : Int) :
    (∀ indent : Int, RangeFault.fits 64 indent = true → indent ≤ widest →
      result.renderAt (.int indent) widest = .ok (result.outlineText indent)) ∧
    (∀ indent : Int, RangeFault.fits 64 indent = false →
      result.renderAt (.int indent) widest = .error (.range .beyondIndex)) ∧
    (∀ indent : Int, RangeFault.fits 64 indent = true → widest < indent →
      result.renderAt (.int indent) widest = .error .noRoom) ∧
    (result.outline 0).map Prod.snd = result.nodes ∧
    (result.Unbroken → ∀ (indent : Int) (text : String),
      result.renderAt (.int indent) widest = .ok text →
        (text.toList.splitOn '\n').length = result.nodes.length ∧
        (0 ≤ indent → ∃ flush : String, result.renderAt (.int 0) widest = .ok flush ∧
          text.toList = ['\n'].intercalate
            ((flush.toList.splitOn '\n').map (List.replicate indent.toNat ' ' ++ ·)))) := by
  have renders (indent : Int) (fits : RangeFault.fits 64 indent = true)
      (room : indent ≤ widest) :
      result.renderAt (.int indent) widest = .ok (result.outlineText indent) := by
    rw [← render_eq_outlineText made.truthful indent]
    simp only [renderAt, fits, Bool.not_true, Bool.false_eq_true, if_false,
      if_neg (Int.not_lt.mpr room)]
  have beyond (indent : Int) (unfit : RangeFault.fits 64 indent = false) :
      result.renderAt (.int indent) widest = .error (.range .beyondIndex) := by
    simp only [renderAt, unfit, Bool.not_false, if_true]
  have crowded (indent : Int) (fits : RangeFault.fits 64 indent = true)
      (wide : widest < indent) : result.renderAt (.int indent) widest = .error .noRoom := by
    simp only [renderAt, fits, Bool.not_true, Bool.false_eq_true, if_false, if_pos wide]
  refine ⟨renders, beyond, crowded, map_snd_outline result 0, ?_⟩
  intro unbroken indent text given
  have ⟨isOutline, room⟩ : text = result.outlineText indent ∧ indent ≤ widest := by
    cases fits : RangeFault.fits 64 indent with
    | false => cases given.symm.trans (beyond indent fits)
    | true =>
        by_cases room : indent ≤ widest
        · exact ⟨Except.ok.inj (given.symm.trans (renders indent fits room)), room⟩
        · cases given.symm.trans (crowded indent fits (Int.not_le.mp room))
  rw [isOutline, splitOn_outlineText unbroken, length_outlineLines]
  refine ⟨rfl, fun nonneg => ⟨result.outlineText 0, renders 0 rfl (Int.le_trans nonneg room), ?_⟩⟩
  rw [splitOn_outlineText unbroken, ← outlineLines_of_nonneg nonneg, outlineText,
    String.toList_ofList]

/-- A negation of a disjunction whose outcome is declared. -/
def negatedDescription : Description :=
  .combined (.text "root") (.text "NOT")
    (some [.combined (.text "inner") (.text "OR") (some [.granted (.text "leaf") .null])
      (.text "yes")]) .null

theorem renderAt_eq_outlineText_negated :
    ∃ result, negatedDescription.build = .ok (some result) ∧ result.Made ∧ result.Unbroken ∧
      result.renderAt (.int (-3)) = .ok "✗ root (NOT)\n✓ inner (OR)\n ✓ leaf GRANTED" ∧
      ∃ text, result.renderAt (.int 5) = .ok text ∧ (text.toList.splitOn '\n').length = 3 := by
  have leaf : (Description.granted (.text "leaf") .null).build =
      .ok (some (.granted (.text "leaf") .null)) := by
    rw [Description.build]
  have inner : (Description.combined (.text "inner") (.text "OR")
      (some [.granted (.text "leaf") .null]) (.text "yes")).build =
        .ok (some (.combined (.text "inner") .or [.granted (.text "leaf") .null] (.text "yes"))) :=
    (Description.build_combined rfl (.cons leaf .nil)).trans rfl
  have builds : negatedDescription.build =
      .ok (some (.combined (.text "root") .not
        [.combined (.text "inner") .or [.granted (.text "leaf") .null] (.text "yes")]
        (.bool false))) :=
    (Description.build_combined rfl (.cons inner .nil)).trans rfl
  have made := Description.made_of_build builds
  have unbroken : (Result.combined (.text "root") .not
      [.combined (.text "inner") .or [.granted (.text "leaf") .null] (.text "yes")]
      (.bool false)).Unbroken := by
    intro value isText
    simp only [texts, textsOfAll, Value.present?, Option.toList_none, List.append_nil,
      List.mem_cons, List.not_mem_nil, or_false] at isText
    rcases isText with rfl | rfl | rfl <;> decide
  obtain ⟨renders, -, -, -, lines⟩ := renderAt_eq_outlineText made Machine.ordinary.indentation
  refine ⟨_, builds, made, unbroken, renders (-3) rfl (by decide), _, renders 5 rfl (by decide), ?_⟩
  exact (lines unbroken 5 _ (renders 5 rfl (by decide))).1

/-- An indentation that no word holds is refused, also a negative one, for which there would be no
spaces to repeat; one that a word holds is refused if it is too wide. -/
theorem renderAt_beyond_word :
    (Description.denied (.text "L") (.text "x")).build =
      .ok (some (.denied (.text "L") (.text "x"))) ∧
    (denied (.text "L") (.text "x")).renderAt (.int (-1180591620717411303424)) =
      .error (.range .beyondIndex) ∧
    (denied (.text "L") (.text "x")).renderAt (.int 4611686018427387904) = .error .noRoom ∧
    (denied (.text "L") (.text "x")).outlineText (-1180591620717411303424) = "✗ L DENIED: x" :=
  ⟨rfl, rfl, rfl, rfl⟩

end Result

end AccessDecision
