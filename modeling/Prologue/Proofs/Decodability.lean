import Prologue.Proofs.Alignment
import Prologue.Proofs.Lists
import Prologue.Proofs.Removal
import Prologue.Transform

/-!
# Removal keeps texts decodable

The range that goes with a statement begins and ends between characters if the statement does, since it
grows to line feeds only. So removing statements from a valid text leaves a valid text, which has lost
the characters in the ranges and no others. The nodes of a tree lie between characters, hence no
transformation of a valid text fails to decode anything.
-/

namespace Prologue

open Utf8 (Valid)

/-! ## Ranges between characters -/

section

variable {source : Bytes} {start stop : Nat}

theorem valid_drop_lineStart (h : Valid source) (hstart : start ≤ source.length) :
    Valid (source.drop (source.lineStart start)) := by
  rcases Nat.eq_zero_or_pos (source.lineStart start) with hzero | hpos
  · rwa [hzero, List.drop_zero]
  · have hdrop := h.drop_of_ascii (Bytes.getElem?_lineStart hstart hpos) (by decide)
    rwa [Nat.sub_add_cancel hpos] at hdrop

theorem valid_drop_lineStop (h : Valid source) (hstop : stop ≤ source.length) :
    Valid (source.drop (min (source.lineStop stop + 1) source.length)) := by
  by_cases hlast : source.lineStop stop < source.length
  · rw [Nat.min_eq_left hlast]
    exact h.drop_of_ascii (Bytes.getElem?_lineStop hstop hlast) (by decide)
  · rw [Nat.min_eq_right (by omega), List.drop_length]
    exact Utf8.valid_nil

/-- The range of a statement that lies between characters lies between characters. -/
theorem valid_drop_removalRange (h : Valid source) (hle : start ≤ stop)
    (hlength : stop ≤ source.length) (hstart : Valid (source.drop start))
    (hstop : Valid (source.drop stop)) :
    Valid (source.drop (removalRange source start stop).1) ∧
      Valid (source.drop (removalRange source start stop).2) := by
  by_cases halone : source.StandsAlone start stop
  · rw [removalRange_of_standsAlone (by omega) hlength halone]
    exact ⟨valid_drop_lineStart h (by omega), valid_drop_lineStop h hlength⟩
  · rw [removalRange_of_not_standsAlone (by omega) hlength halone]
    exact ⟨hstart, hstop⟩

end

/-- A part of a text that can be removed: it lies between characters, starts with no blank and ends on
a line that holds more than blanks of it. -/
structure Removable (text : List Char) (span : Nat × Nat) : Prop where
  proper : span.1 < span.2
  start : Utf8.Boundary text span.1
  stop : Utf8.Boundary text span.2
  first : (Utf8.encode text).isSolid span.1 = true
  last : (Utf8.encode text).EndsSolid span.1 span.2

theorem Removable.within {text : List Char} {span : Nat × Nat} (h : Removable text span) :
    span.2 ≤ (Utf8.encode text).length := h.stop.valid_drop.1

/-- Removing parts that do not overlap leaves the characters outside their ranges. -/
theorem removeRanges_removable (text : List Char) {spans : List (Nat × Nat)}
    (hspans : ∀ span ∈ spans, Removable text span)
    (happart : spans.Pairwise fun a b => a.2 ≤ b.1 ∨ b.2 ≤ a.1) :
    removeRanges (Utf8.encode text)
        (spans.map fun span => removalRange (Utf8.encode text) span.1 span.2) =
      Utf8.encode (Utf8.outside
        (spans.map fun span => removalRange (Utf8.encode text) span.1 span.2) text) := by
  apply Utf8.removeRanges_encode
  · rw [List.forall_mem_map]
    intro span hspan
    have hproper := (hspans span hspan).proper
    have hbounds := removalRange_bounds (Nat.le_of_lt hproper) (hspans span hspan).within
    omega
  · rw [List.forall_mem_map]
    intro span hspan
    have h := hspans span hspan
    have hproper := h.proper
    have hbounds := removalRange_bounds (Nat.le_of_lt hproper) h.within
    obtain ⟨hfirst, hlast⟩ := valid_drop_removalRange (Utf8.valid_encode text)
      (Nat.le_of_lt hproper) h.within h.start.valid_drop.2 h.stop.valid_drop.2
    exact ⟨Utf8.boundary_of_valid_drop (by omega) hfirst, Utf8.boundary_of_valid_drop hbounds.2.2 hlast⟩
  · rw [List.pairwise_map]
    refine happart.imp_of_mem fun {a b} ha hb hab => separate_of_le ?_
    have hspan := hspans a ha
    have hother := hspans b hb
    exact removalRange_apart (Nat.le_of_lt hspan.proper) (Nat.le_of_lt hother.proper) hspan.within
      hother.within hspan.first hother.first hspan.last hother.last hab

/-! ## Sources -/

/-- What holds of all nodes of a tree holds of all that a scope refers to. -/
theorem Scope.everywhere_of_mem_scopesUnder {P : Node → Prop} {node : Node} {parent : Option Node}
    {scope : Scope} (hnode : node.Everywhere P)
    (hparent : ∀ above, parent = some above → above.Everywhere P)
    (h : scope ∈ node.scopesUnder parent) :
    scope.container.Everywhere P ∧ ∀ name, scope.nameNode? = some name → name.Everywhere P := by
  induction node using Node.children_induction generalizing parent with
  | step node ih =>
    rw [Node.scopesUnder_eq, List.mem_append, Option.mem_toList, ofNode?_eq_some_iff,
      List.mem_flatMap] at h
    rcases h with ⟨-, body, hbody, -, rfl⟩ | ⟨child, hchild, hscope⟩
    · refine ⟨hnode.part hbody, fun name hname => ?_⟩
      simp only [nameNode?] at hname
      split at hname
      next own hown =>
        obtain rfl := Option.some.inj hname
        exact hnode.part hown
      split at hname
      next above habove =>
        split at hname
        · refine (hparent above ?_).part hname
          cases parent with
          | none => cases habove
          | some outer => exact habove
        · cases hname
      · cases hname
    · refine ih child hchild (hnode.child hchild) (fun above habove => ?_) hscope
      obtain rfl := Option.some.inj habove
      exact hnode

theorem Scope.everywhere_of_mem_scopes {P : Node → Prop} {root : Node} {scope : Scope}
    (hroot : root.Everywhere P) (h : scope ∈ root.scopes) :
    scope.container.Everywhere P ∧ ∀ name, scope.nameNode? = some name → name.Everywhere P := by
  rcases List.mem_cons.1 h with rfl | h
  · exact ⟨hroot, nofun⟩
  · obtain ⟨child, hchild, hscope⟩ := List.mem_flatMap.1 h
    refine everywhere_of_mem_scopesUnder (hroot.child hchild) ?_ hscope
    intro above habove
    obtain rfl := Option.some.inj habove
    exact hroot

/-- What stands between the quotes of a string is valid. -/
theorem Bytes.Quoted.valid_slice {source : Bytes} {start stop : Nat} (hvalid : Valid source)
    (h : source.Quoted start stop) : Valid (source.slice (start + 1) (stop - 1)) := by
  obtain ⟨-, quote, hquote, hfirst, hlast⟩ := h
  have hascii : quote < 0x80 := by rcases hquote with rfl | rfl <;> decide
  refine Valid.slice (hvalid.drop_of_ascii hfirst hascii) (hvalid.drop fun byte hbyte => ?_)
  rw [← Option.some.inj (hlast.symm.trans hbyte)]
  exact Utf8.isContinuation_eq_false_of_lt hascii

/-- A bare string stands between its quotes. -/
theorem Node.literal?_eq_some {statement : Node} {source literal : Bytes}
    (h : statement.literal? source = some literal) :
    statement.kind = .expressionStatement ∧ ∃ expression ∈ statement.children,
      expression.kind = .string ∧
        literal = source.slice (expression.start + 1) (expression.stop - 1) := by
  unfold literal? at h
  split at h
  next hkind =>
    split at h
    next expression honly =>
      split at h
      next hstring =>
        refine ⟨hkind, expression, ?_, hstring, (Option.some.inj h).symm⟩
        exact List.mem_of_mem_filter (honly ▸ List.mem_singleton_self expression)
      · cases h
    · cases h
  · cases h

namespace Source

variable (dialect : Dialect) {bytes : Bytes}

theorem isOk_textOf {node : Node} (h : node.Aligned bytes) :
    ∃ text, (Source.read dialect bytes).textOf node = .ok text :=
  (Valid.slice h.start h.stop).decode

/-- Nothing that an analysis of a valid text looks at fails to decode. -/
theorem read_legible (h : Valid bytes) : (Source.read dialect bytes).Legible := by
  intro scope hscope
  obtain ⟨hcontainer, hname⟩ := Scope.everywhere_of_mem_scopes (read_aligned dialect h) hscope
  refine ⟨fun statement hmem literal hliteral => ?_, fun _ => ?_⟩
  · obtain ⟨-, expression, hexpression, hstring, rfl⟩ := Node.literal?_eq_some hliteral
    have haligned := (hcontainer.child (List.mem_of_mem_filter hmem)).child hexpression
    have hquoted := haligned.self.quoted hstring
    obtain ⟨text, htext⟩ := (hquoted.valid_slice h).decode
    show (Utf8.decode (bytes.slice (expression.start + 1) (expression.stop - 1))).isOk
    rw [htext]
    rfl
  · unfold Scope.listedName?
    cases hnode : scope.nameNode? with
    | none => rfl
    | some node =>
      obtain ⟨text, htext⟩ := isOk_textOf dialect (hname node hnode).self
      show ((Source.read dialect bytes).textOf node).toOption.isSome
      rw [htext]
      rfl

/-- Stripping a valid text leaves the characters outside the ranges. -/
theorem strip_encode (text : List Char) :
    ∃ analysis, (Source.read dialect (Utf8.encode text)).analyze = .ok analysis ∧
      ((Source.read dialect (Utf8.encode text)).strip analysis).bytes =
        Utf8.encode (Utf8.outside (analysis.ranges (Utf8.encode text)) text) := by
  have hvalid := Utf8.valid_encode text
  have hlaid := read_wellLaid dialect (Utf8.encode text)
  have haligned := read_aligned dialect hvalid
  refine ⟨_, analyze_eq _ (read_legible dialect hvalid), ?_⟩
  generalize hsource : Source.read dialect (Utf8.encode text) = source at hlaid haligned ⊢
  have hbytes : source.bytes = Utf8.encode text := by rw [← hsource]; rfl
  have hranges : (Analysis.expected source source.tree.scopes).ranges (Utf8.encode text) =
      (source.sightings.map fun sighting => (sighting.statement.start, sighting.statement.stop)).map
        fun span => removalRange (Utf8.encode text) span.1 span.2 := by
    rw [← hbytes, source.expected_ranges, List.map_map]
    rfl
  have hremovable : ∀ span ∈ source.sightings.map fun sighting =>
      (sighting.statement.start, sighting.statement.stop), Removable text span := by
    rw [List.forall_mem_map]
    intro sighting hmem
    obtain ⟨hcompact, hlength⟩ := hlaid.compact_of_mem hmem
    obtain ⟨scope, hscope, hin⟩ := List.mem_flatMap.1 hmem
    have hchild := (Scope.sightings_sublist source.bytes scope).subset
      (List.mem_map_of_mem (f := Sighting.statement) hin)
    have hcontainer := (Scope.everywhere_of_mem_scopes haligned hscope).1
    have hplace := (hcontainer.child hchild).self
    rw [hbytes] at hcompact hlength
    have hbounds := hcompact.bounds
    exact ⟨hbounds, Utf8.boundary_of_valid_drop (by omega) hplace.start,
      Utf8.boundary_of_valid_drop hlength hplace.stop, hcompact.first, hcompact.last⟩
  have happart : (source.sightings.map fun sighting =>
      (sighting.statement.start, sighting.statement.stop)).Pairwise
        fun a b => a.2 ≤ b.1 ∨ b.2 ≤ a.1 := by
    rw [List.pairwise_map]
    exact hlaid.sightings_apart
  rw [bytes_strip, hbytes, hranges]
  exact removeRanges_removable text hremovable happart

end Source

/-- The result of a transformation that succeeds. -/
theorem transform_eq_ok_iff {bytes file : Bytes} {directory : Option Bytes}
    {language : Option (List Char)} {result : TransformResult} :
    transform bytes file directory language = .ok result ↔ ∃ dialect analysis,
      dialectFor file language = .ok dialect ∧ (Source.read dialect bytes).hasError = false ∧
        (Source.read dialect bytes).analyze = .ok analysis ∧
        Utf8.decode ((Source.read dialect bytes).strip analysis).bytes = .ok result.code ∧
        result = ⟨relativeFilename file directory, result.code, analysis.diagnostics,
          analysis.hasModuleDirective, analysis.directiveFunctions⟩ := by
  constructor
  · intro h
    unfold transform at h
    split at h
    next => exact absurd h (by simp)
    next dialect hdialect =>
      simp only at h
      split at h
      next => exact absurd h (by simp)
      next hfaultless =>
        split at h
        next => exact absurd h (by simp)
        next analysis hanalysis =>
          split at h
          next => exact absurd h (by simp)
          next code hcode =>
            obtain rfl := Except.ok.inj h
            exact ⟨dialect, analysis, hdialect, by simpa using hfaultless, hanalysis, hcode, rfl⟩
  · rintro ⟨dialect, analysis, hdialect, hfaultless, hanalysis, hcode, hresult⟩
    simp only [transform, hdialect, hfaultless, hanalysis, hcode]
    exact congrArg Except.ok hresult.symm

/-- From a text that decodes, separate parts that start and end with no blank can be removed: what
is left decodes to the characters outside the ranges. No transformation fails to decode. -/
theorem removal_keeps_encoding {bytes : Bytes} {text : List Char}
    (h : Utf8.decode bytes = .ok text) :
    (∀ spans : List (Nat × Nat),
      (∀ span ∈ spans, span.1 < span.2 ∧
        Utf8.Boundary text span.1 ∧ Utf8.Boundary text span.2 ∧
        bytes.isSolid span.1 = true ∧ bytes.isSolid (span.2 - 1) = true) →
      (spans.Pairwise fun a b => a.2 ≤ b.1 ∨ b.2 ≤ a.1) →
      let ranges := spans.map fun span => removalRange bytes span.1 span.2
      Utf8.decode (removeRanges bytes ranges) = .ok (Utf8.outside ranges text)) ∧
    ∀ file directory language fault,
      transform bytes file directory language ≠ .error (.encoding fault) := by
  obtain rfl := (Utf8.decode_eq_ok_iff _ _).1 h
  refine ⟨fun spans hspans happart => ?_, fun file directory language fault hfault => ?_⟩
  · refine (Utf8.decode_eq_ok_iff _ _).2 (removeRanges_removable text (fun span hspan => ?_) happart).symm
    obtain ⟨hproper, hstart, hstop, hfirst, hlast⟩ := hspans span hspan
    exact ⟨hproper, hstart, hstop, hfirst, Bytes.endsSolid_of_isSolid hproper hlast⟩
  · unfold transform at hfault
    split at hfault
    · cases hfault
    next dialect _ =>
      obtain ⟨analysis, hanalyze, hstrip⟩ := Source.strip_encode dialect text
      simp only [hanalyze, hstrip, (Utf8.decode_eq_ok_iff _ _).2 rfl] at hfault
      split at hfault <;> cases hfault

/-- A string on a line between two letters of two bytes each, and the second of them. -/
theorem removal_keeps_letter :
    Utf8.decode (utf8 "\u00e4\n  'x'  \n\u00f6") = .ok "\u00e4\n  'x'  \n\u00f6".toList ∧
      Utf8.decode (removeRanges (utf8 "\u00e4\n  'x'  \n\u00f6")
        ([(5, 8), (11, 13)].map fun span =>
          removalRange (utf8 "\u00e4\n  'x'  \n\u00f6") span.1 span.2)) = .ok "\u00e4\n".toList := by
  have hdecode : Utf8.decode (utf8 "\u00e4\n  'x'  \n\u00f6") =
      .ok "\u00e4\n  'x'  \n\u00f6".toList := by decide +kernel
  have hleft := (removal_keeps_encoding hdecode).1 [(5, 8), (11, 13)] ?_ (by decide)
  · refine ⟨hdecode, hleft.trans ?_⟩
    decide +kernel
  · rw [List.forall_mem_cons, List.forall_mem_singleton]
    refine ⟨⟨by decide, ⟨"\u00e4\n  ".toList, ?_, ?_⟩, ⟨"\u00e4\n  'x'".toList, ?_, ?_⟩, ?_, ?_⟩,
      ⟨by decide, ⟨"\u00e4\n  'x'  \n".toList, ?_, ?_⟩,
        ⟨"\u00e4\n  'x'  \n\u00f6".toList, ?_, ?_⟩, ?_, ?_⟩⟩ <;> decide +kernel

end Prologue
