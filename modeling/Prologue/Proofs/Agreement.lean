import Prologue.Proofs.Listing
import Prologue.Proofs.Parts

/-!
# The analysis and the index agree

The analysis of directives and the index look at a text in different ways: the one judges the scopes
that a search finds, the other passes over texts without the directive in quotes and looks for
exported declarations on a tour. What the analysis takes for the directive keeps the index from
passing over the text, and the exported functions that it recognizes are runners of the index, under
the same names.
-/

namespace Prologue

/-! ## The directive in quotes -/

theorem Bytes.includes_eq_true_iff (bytes part : Bytes) :
    bytes.includes part = true ↔ part <:+: bytes := by
  induction bytes with
  | nil => simp [includes]
  | cons byte rest ih =>
    rw [includes, Bool.or_eq_true, List.isPrefixOf_iff_prefix, ih, List.infix_cons_iff]

theorem Bytes.Quoted.slice_eq {source : Bytes} {start stop : Nat} (h : source.Quoted start stop) :
    ∃ quote : UInt8, (quote = 34 ∨ quote = 39) ∧
      source.slice start stop = quote :: (source.slice (start + 1) (stop - 1) ++ [quote]) := by
  obtain ⟨hwide, quote, hquote, hfirst, hlast⟩ := h
  refine ⟨quote, hquote, ?_⟩
  obtain ⟨last, rfl⟩ : ∃ last, stop = last + 1 := ⟨stop - 1, by omega⟩
  rw [Nat.add_sub_cancel] at hlast ⊢
  obtain ⟨hlength, -⟩ := List.getElem?_eq_some_iff.1 hlast
  have htake : source.take (last + 1) = source.take last ++ [quote] := by
    rw [List.take_add_one, hlast]
    rfl
  have hdrop : (source.take last).drop start = quote :: (source.take last).drop (start + 1) := by
    have hat : (source.take last)[start]? = some quote := by
      rw [List.getElem?_take_of_lt (by omega), hfirst]
    obtain ⟨hlt, rfl⟩ := List.getElem?_eq_some_iff.1 hat
    exact List.drop_eq_getElem_cons hlt
  rw [slice, slice, htake, List.drop_append_of_le_length (by rw [List.length_take]; omega), hdrop]
  rfl

/-- A text that has the directive as a string is not passed over. -/
theorem mentionsDirective_of_quoted {source : Bytes} {start stop : Nat}
    (hquoted : source.Quoted start stop)
    (htext : source.slice (start + 1) (stop - 1) = Utf8.encode useRunner) :
    mentionsDirective source = true := by
  obtain ⟨quote, hquote, hslice⟩ := hquoted.slice_eq
  have hinfix : source.slice start stop <:+: source :=
    (List.drop_suffix _ _).isInfix.trans (List.take_prefix _ _).isInfix
  rw [hslice, htext] at hinfix
  rw [mentionsDirective, Bool.or_eq_true, Bytes.includes_eq_true_iff, Bytes.includes_eq_true_iff]
  rcases hquote with rfl | rfl
  · have hspelled : utf8 "\"use runner\"" = 34 :: (Utf8.encode useRunner ++ [34]) := by decide
    exact .inl (hspelled ▸ hinfix)
  · have hspelled : utf8 "'use runner'" = 39 :: (Utf8.encode useRunner ++ [39]) := by decide
    exact .inr (hspelled ▸ hinfix)

theorem mentionsDirective_of_stringText? (dialect : Dialect) {bytes : Bytes} (h : Utf8.Valid bytes)
    {scope : Scope} (hscope : scope ∈ (Source.read dialect bytes).tree.scopes) {statement : Node}
    (hmem : statement ∈ scope.container.statements)
    (htext : statement.stringText? bytes = some useRunner) : mentionsDirective bytes = true := by
  obtain ⟨hcontainer, -⟩ := Scope.everywhere_of_mem_scopes (Source.read_aligned dialect h) hscope
  unfold Node.stringText? at htext
  split at htext
  next literal hliteral =>
    obtain ⟨-, expression, hexpression, hstring, rfl⟩ := Node.literal?_eq_some hliteral
    have haligned := (hcontainer.child (List.mem_of_mem_filter hmem)).child hexpression
    refine mentionsDirective_of_quoted (haligned.self.quoted hstring) ?_
    exact ((Utf8.decode_eq_ok_iff _ _).1 (eq_ok_of_toOption htext)).symm
  · cases htext

theorem mentionsDirective_of_mem_flagged (dialect : Dialect) {bytes : Bytes}
    (h : Utf8.Valid bytes) {flagged : Flagged}
    (hmem : flagged ∈ (Analysis.expected (Source.read dialect bytes)
      (Source.read dialect bytes).tree.scopes).flagged)
    (hexact : flagged.text = useRunner) : mentionsDirective bytes = true := by
  rw [Analysis.expected_flagged, List.mem_map] at hmem
  obtain ⟨sighting, hsighting, rfl⟩ := hmem
  obtain ⟨scope, hscope, hin⟩ := List.mem_flatMap.1 hsighting
  obtain ⟨-, hat, hstring, -⟩ := Scope.mem_sightings.1 hin
  exact mentionsDirective_of_stringText? dialect h hscope (List.mem_of_getElem? hat)
    (hexact ▸ hstring)

/-! ## The nodes above a node -/

namespace Node

/-- On a walk each node comes with its parent, the parent of that, and so on. -/
theorem mem_walkUnder_cases {root node : Node} {above list : List Node}
    (h : (node, list) ∈ root.walkUnder above) :
    (node = root ∧ list = above) ∨
      ∃ parent rest, list = parent :: rest ∧ node ∈ parent.children ∧
        (parent, rest) ∈ root.walkUnder above := by
  induction root using Node.children_induction generalizing above with
  | step root ih =>
    rw [walkUnder_eq] at h ⊢
    rcases List.mem_cons.1 h with hroot | h
    · exact .inl (Prod.mk.inj hroot)
    obtain ⟨child, hchild, hbelow⟩ := List.mem_flatMap.1 h
    rcases ih child hchild hbelow with ⟨rfl, rfl⟩ | ⟨parent, rest, rfl, hnode, hparent⟩
    · exact .inr ⟨root, above, rfl, hchild, List.mem_cons_self⟩
    · exact .inr ⟨parent, rest, rfl, hnode,
        List.mem_cons_of_mem _ (List.mem_flatMap.2 ⟨child, hchild, hparent⟩)⟩

/-! ## Runners -/

/-- Whether a node declares an asynchronous function with a name. -/
def declaresRunner (node : Node) : Bool :=
  node.kind = .functionDeclaration && node.hasAsync && (node.child? .name).isSome

/-- Whether a node is an asynchronous arrow that a declarator binds to a plain name. -/
def isBoundRunner (node : Node) (above : List Node) : Bool :=
  node.kind = .arrowFunction && above.head?.any fun declarator =>
    declarator.kind = .variableDeclarator && node.isAsyncArrow declarator &&
      (declarator.child? .name).any (·.kind = .identifier)

theorem mem_runnerNames_of_declaresRunner {node : Node} (h : node.declaresRunner = true) :
    ∃ name, node.child? .name = some name ∧ name ∈ node.runnerNames := by
  simp only [declaresRunner, Bool.and_eq_true, decide_eq_true_eq] at h
  obtain ⟨⟨hkind, hasync⟩, hname⟩ := h
  obtain ⟨name, hname⟩ := Option.isSome_iff_exists.1 hname
  refine ⟨name, hname, ?_⟩
  simp [runnerNames, hkind, hasync, hname]

theorem mem_runnerNames_of_bindsAsyncArrow {node declarator name : Node}
    (hnode : node.kind.declaresVariables = true) (hmem : declarator ∈ node.children)
    (hkind : declarator.kind = .variableDeclarator) (hbinds : declarator.bindsAsyncArrow = true)
    (hname : declarator.child? .name = some name) (hplain : name.kind = .identifier) :
    name ∈ node.runnerNames := by
  have hother : node.kind ≠ .functionDeclaration := by
    intro heq
    rw [heq] at hnode
    cases hnode
  rw [runnerNames, if_neg hother, if_pos hnode, List.mem_filterMap]
  refine ⟨declarator, List.mem_filter.2 ⟨List.mem_filter.2 ⟨hmem, by simpa using hkind⟩, hbinds⟩, ?_⟩
  rw [boundName?, hname, Option.filter_some, if_pos (by simp [hplain])]

/-- An arrow that is bound to a name below an export is named by a declaration below it, too. -/
theorem exists_declaration_of_isBoundRunner {root node : Node} {above : List Node}
    (hregular : root.Everywhere Regular) (hroot : root.kind = .program)
    (h : (node, above) ∈ root.walk) (hexported : node.isExported above = true)
    (hbound : node.isBoundRunner above = true) :
    ∃ declaration rest declarator name, (declaration, rest) ∈ root.walk ∧
      declaration.isExported rest = true ∧ above.head? = some declarator ∧
      declarator.kind = .variableDeclarator ∧ node.child? .name = none ∧
      declarator.child? .name = some name ∧ name ∈ declaration.runnerNames := by
  simp only [isBoundRunner, Bool.and_eq_true, decide_eq_true_eq, Option.any_eq_true] at hbound
  obtain ⟨harrow, declarator, hhead, ⟨hkind, hasync⟩, name, hname, hplain⟩ := hbound
  -- Above the arrow there is the declarator, and above that the declaration.
  rcases mem_walkUnder_cases h with ⟨-, rfl⟩ | ⟨parent, outer, rfl, hnode, hparent⟩
  · cases hhead
  obtain rfl := Option.some.inj hhead
  rcases mem_walkUnder_cases hparent with ⟨rfl, -⟩ | ⟨declaration, rest, rfl, hbelow, hdeclaration⟩
  · rw [hroot] at hkind
    cases hkind
  have hvalue := (hregular _ hparent).child?_value hkind hnode harrow
  have hdeclares := (hregular _ hdeclaration).declaresVariables hbelow hkind
  refine ⟨declaration, rest, parent, name, hdeclaration, ?_, rfl, hkind,
    (hregular _ h).child?_name harrow, hname,
    mem_runnerNames_of_bindsAsyncArrow hdeclares hbelow hkind ?_ hname hplain⟩
  · simpa [isExported, harrow, hkind] using hexported
  · simp [bindsAsyncArrow, hvalue, harrow, hasync]

end Node

namespace Source

variable (dialect : Dialect) {bytes : Bytes}

/-- Every name of a runner that a walk through a valid text meets below an export is in the index. -/
theorem exists_runners (h : Utf8.Valid bytes) :
    ∃ runners, (Source.read dialect bytes).runners = .ok runners ∧
      ∀ node above, (node, above) ∈ (Source.read dialect bytes).tree.walk →
        node.isExported above = true → ∀ name ∈ node.runnerNames, ∀ text,
        (Source.read dialect bytes).textOf name = .ok text →
        ∃ runner ∈ runners, runner.name = text := by
  obtain ⟨listing, hlisting, hall⟩ :=
    exists_listing (read_spelled dialect h Node.everywhere_of_mem_runnerNames)
  refine ⟨_, by rw [runners_eq, hlisting]; rfl,
    fun node above hentry hexported name hname text htext => ?_⟩
  have hlisted := hall ⟨node, name⟩ (mem_declared.2 ⟨above, hentry, hexported, hname⟩) text htext
  exact ⟨_, List.mem_map.2 ⟨_, hlisted, rfl⟩, rfl⟩

theorem kind_tree : (Source.read dialect bytes).tree.kind = .program := by
  rw [read, Grammar.parse, Node.kind_weave]
  rfl

/-! ## Scopes -/

/-- The functions with a block, each with the nodes above it, in the order of their scopes. -/
def functions (source : Source) : List (Node × List Node) :=
  source.tree.tour.tail.filter (·.1.hosts)

/-- The functions whose scopes an analysis recognizes. -/
def recognizedFunctions (source : Source) (analysis : Analysis) : List (Node × List Node) :=
  ((source.functions.zip analysis.scopes.tail).filter (·.2.recognized)).map (·.1)

end Source

/-- The scope of a function, which is its body. -/
def Scope.ofFunction (entry : Node × List Node) : Scope :=
  function ((entry.1.child? .body).getD entry.1) entry.1 entry.2.head?

namespace Source

theorem scopes_eq_map_ofFunction (source : Source) :
    source.tree.scopes = .module source.tree :: source.functions.map Scope.ofFunction := by
  have hfunctions : ∀ entry ∈ source.functions,
      ((entry.1.child? .body).map fun body => Scope.function body entry.1 entry.2.head?) =
        some (Scope.ofFunction entry) := by
    intro entry hentry
    have hhosts := List.of_mem_filter hentry
    cases hbody : entry.1.child? .body with
    | none => simp [Node.hosts, hbody] at hhosts
    | some body => simp [Scope.ofFunction, hbody]
  rw [← Scope.all_eq, Scope.all_eq_filterMap]
  congr 1
  refine List.map_injective_iff.2 (fun _ _ => Option.some.inj) ?_
  rw [Scope.filterMap_ofNode?, List.map_map]
  exact List.map_congr_left hfunctions

/-- Every report but the first one is on the function that stands in its place. -/
theorem owner_expected (source : Source) :
    (Analysis.expected source source.tree.scopes).scopes.tail.map (·.owner) =
      source.functions.map fun entry => some entry.1.kind := by
  rw [Analysis.expected, scopes_eq_map_ofFunction, List.map_cons, List.tail_cons, List.map_map,
    List.map_map]
  rfl

theorem recognizedFunctions_expected (source : Source) :
    source.recognizedFunctions (.expected source source.tree.scopes) =
      source.functions.filter fun entry => (Scope.ofFunction entry).isMarked source.bytes := by
  rw [recognizedFunctions, Analysis.expected, scopes_eq_map_ofFunction, List.map_cons,
    List.tail_cons, List.map_map, ← List.map_prod_left_eq_zip, List.filter_map, List.map_map]
  simp only [Function.comp_def, List.map_id', Scope.ofFunction, Scope.report_recognized_function]

theorem directiveFunctions_expected {source : Source} (h : source.Legible) :
    (Analysis.expected source source.tree.scopes).directiveFunctions.map some =
      (source.recognizedFunctions (.expected source source.tree.scopes)).map fun entry =>
        (Scope.ofFunction entry).listedName? source := by
  rw [Analysis.expected_directiveFunctions h, recognizedFunctions_expected,
    scopes_eq_map_ofFunction, List.filter_cons_of_neg (by simp [Scope.isMarked]), List.filter_map,
    List.map_map]
  rfl

/-- A recognized function is listed under the name that stands in its place. -/
theorem listedName?_of_mem_zip {source : Source} (h : source.Legible) {entry : Node × List Node}
    {name : List Char}
    (hmem : (entry, name) ∈
      (source.recognizedFunctions (.expected source source.tree.scopes)).zip
        (Analysis.expected source source.tree.scopes).directiveFunctions) :
    (Scope.ofFunction entry).listedName? source = some name := by
  obtain ⟨index, hat⟩ := List.mem_iff_getElem?.1 hmem
  obtain ⟨hfunction, hdirective⟩ := List.getElem?_zip_eq_some.1 hat
  have hboth := congrArg (·[index]?) (directiveFunctions_expected h)
  simpa [hfunction, hdirective] using hboth.symm

theorem mentionsDirective_of_isMarked (dialect : Dialect) {bytes : Bytes} (h : Utf8.Valid bytes)
    {entry : Node × List Node} (hmem : entry ∈ (Source.read dialect bytes).functions)
    (hmarked : (Scope.ofFunction entry).isMarked bytes = true) : mentionsDirective bytes = true := by
  have hscope : Scope.ofFunction entry ∈ (Source.read dialect bytes).tree.scopes := by
    rw [scopes_eq_map_ofFunction]
    exact List.mem_cons_of_mem _ (List.mem_map_of_mem hmem)
  simp only [Scope.ofFunction, Scope.isMarked, decide_eq_true_eq] at hmarked
  obtain ⟨statement, hfirst, htext⟩ := Option.bind_eq_some_iff.1 hmarked
  exact mentionsDirective_of_stringText? dialect h hscope (List.mem_of_head? hfirst) htext

/-- A recognized function below an export, declared or bound to a plain name, is in the index. -/
theorem exists_runner_of_isMarked (dialect : Dialect) {bytes : Bytes} (h : Utf8.Valid bytes)
    {runners : List Runner} (hrunners : (Source.read dialect bytes).runners = .ok runners)
    {node : Node} {above : List Node} (hmem : (node, above) ∈ (Source.read dialect bytes).functions)
    (hexported : node.isExported above = true)
    (hform : node.declaresRunner = true ∨ node.isBoundRunner above = true) {name : List Char}
    (hname : (Scope.ofFunction (node, above)).listedName? (Source.read dialect bytes) = some name) :
    ∃ runner ∈ runners, runner.name = name := by
  obtain ⟨all, hall, hfound⟩ := exists_runners dialect h
  obtain rfl := Except.ok.inj (hrunners.symm.trans hall)
  have hwalk : (node, above) ∈ (Source.read dialect bytes).tree.walk := by
    rw [← Node.tour_eq_walk]
    exact List.mem_of_mem_tail (List.mem_of_mem_filter hmem)
  unfold Scope.listedName? at hname
  rcases hform with hdeclares | hbound
  · obtain ⟨own, hown, hlisted⟩ := Node.mem_runnerNames_of_declaresRunner hdeclares
    simp only [Scope.ofFunction, Scope.nameNode?, hown] at hname
    exact hfound node above hwalk hexported own hlisted name (eq_ok_of_toOption hname)
  · obtain ⟨declaration, rest, declarator, own, hdeclaration, hbelow, hhead, hkind, hnone, hown,
      hlisted⟩ := Node.exists_declaration_of_isBoundRunner (read_regular dialect bytes)
        (kind_tree dialect) hwalk hexported hbound
    simp only [Scope.ofFunction, Scope.nameNode?, hnone, hhead, hkind, if_true, hown] at hname
    exact hfound declaration rest hdeclaration hbelow own hlisted name (eq_ok_of_toOption hname)

end Source

/-- A text with the directive is not passed over. -/
theorem indexTextIn_of_mentionsDirective {language : List Char} {dialect : Dialect}
    (hlanguage : Dialect.ofLanguage language = .ok dialect) {bytes : Bytes}
    (h : mentionsDirective bytes = true) {runners : List Runner}
    (hrunners : (Source.read dialect bytes).runners = .ok runners) (file : Bytes) :
    ∃ metadata notices, indexTextIn language bytes file = .ok (some metadata, notices) ∧
      metadata.runners = runners := by
  have hindex : indexTextIn language bytes file = .ok (indexText dialect bytes file) := by
    rw [indexTextIn, if_pos h, hlanguage]
    rfl
  rw [hindex, indexText, if_pos h]
  simp only [hrunners]
  exact ⟨_, _, rfl, rfl⟩

/-- The analysis of a text agrees with its index: no text with a flagged directive is passed over,
and each function that is recognized, exported, asynchronous and named is a runner. -/
theorem Source.analysis_agrees_with_index {language : List Char} {dialect : Dialect}
    (hlanguage : Dialect.ofLanguage language = .ok dialect) (text : List Char) (file : Bytes) :
    let source := Source.read dialect (Utf8.encode text)
    ∃ analysis, source.analyze = .ok analysis ∧
      ((∃ flagged ∈ analysis.flagged, flagged.text = useRunner) →
        mentionsDirective source.bytes = true ∧
        ∃ metadata notices, indexTextIn language source.bytes file = .ok (some metadata, notices)) ∧
      analysis.scopes.tail.map (·.owner) = (source.functions.map fun entry => some entry.1.kind) ∧
      (source.recognizedFunctions analysis).length = analysis.directiveFunctions.length ∧
      ∀ node above name,
        ((node, above), name) ∈
          (source.recognizedFunctions analysis).zip analysis.directiveFunctions →
        node.isExported above = true →
        (node.declaresRunner = true ∨ node.isBoundRunner above = true) →
        ∃ metadata notices, indexTextIn language source.bytes file = .ok (some metadata, notices) ∧
          ∃ runner ∈ metadata.runners, runner.name = name := by
  have hvalid := Utf8.valid_encode text
  have hlegible := read_legible dialect hvalid
  have hnames := directiveFunctions_expected hlegible
  obtain ⟨runners, hrunners, -⟩ := exists_runners dialect hvalid
  refine ⟨_, Source.analyze_eq _ hlegible, ?_, owner_expected _, ?_, ?_⟩
  · rintro ⟨flagged, hflagged, hexact⟩
    have hmentions := mentionsDirective_of_mem_flagged dialect hvalid hflagged hexact
    obtain ⟨metadata, notices, hindex, -⟩ :=
      indexTextIn_of_mentionsDirective hlanguage hmentions hrunners file
    exact ⟨hmentions, metadata, notices, hindex⟩
  · simpa using (congrArg List.length hnames).symm
  · intro node above name hpair hexported hform
    have hlisted := listedName?_of_mem_zip hlegible hpair
    have hmarked := (List.of_mem_zip hpair).1
    rw [recognizedFunctions_expected, List.mem_filter] at hmarked
    have hmentions := mentionsDirective_of_isMarked dialect hvalid hmarked.1 hmarked.2
    obtain ⟨metadata, notices, hindex, hsame⟩ :=
      indexTextIn_of_mentionsDirective hlanguage hmentions hrunners file
    refine ⟨metadata, notices, hindex, hsame ▸ ?_⟩
    exact exists_runner_of_isMarked dialect hvalid hrunners hmarked.1 hexported hform hlisted

/-- An exported arrow that starts with the directive is a runner under the name it is bound to. -/
theorem Source.bound_arrow_indexed :
    ∃ metadata notices, indexTextIn "typescript".toList
        (Utf8.encode "export const f = async () => \x7b 'use runner' \x7d".toList) [] =
          .ok (some metadata, notices) ∧
      ∃ runner ∈ metadata.runners, runner.name = ['f'] := by
  obtain ⟨analysis, hanalysis, -, -, -, hruns⟩ := Source.analysis_agrees_with_index
    (show Dialect.ofLanguage "typescript".toList = .ok .typescript from rfl)
    "export const f = async () => \x7b 'use runner' \x7d".toList []
  generalize hsource : Source.read .typescript
    (Utf8.encode "export const f = async () => \x7b 'use runner' \x7d".toList) = source at *
  have hlisted : (source.analyze.toOption.any fun analysis =>
      ((source.recognizedFunctions analysis).zip analysis.directiveFunctions).any
        fun ((node, above), name) =>
          node.isExported above && node.isBoundRunner above && decide (name = ['f'])) = true := by
    rw [← hsource]
    decide +kernel
  rw [hanalysis] at hlisted
  obtain ⟨⟨⟨node, above⟩, name⟩, hpair, hboth⟩ := List.any_eq_true.1 hlisted
  simp only [Bool.and_eq_true, decide_eq_true_eq] at hboth
  obtain ⟨⟨hexported, hbound⟩, rfl⟩ := hboth
  have hindexed := hruns node above _ hpair hexported (.inr hbound)
  rw [← hsource] at hindexed
  exact hindexed

end Prologue
