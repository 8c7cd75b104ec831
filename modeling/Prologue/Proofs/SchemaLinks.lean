import Prologue.Proofs.LetterCase
import Prologue.Proofs.LineEndings
import Prologue.Proofs.Listing

/-!
# Links from schemas to runners

A schema is linked to the first runner whose name stands in its own. More runners at the end of the
list leave the links that were found as they are. A name that stands in another one is found there in
whatever case, unless one of its sigmas can be at the end of a word in the one and not in the other:
these names, and no others, have schemas that are named after them and not linked.
-/

namespace Prologue

/-! ## The first match -/

namespace Source

/-- A runner is linked exactly if it is the first whose name stands in the given one. -/
theorem linkedRunner_eq_some_iff {runnerNames : List (List Char)} {name runner : List Char} :
    linkedRunner runnerNames name = some runner ↔
      Text.lower runner <:+: Text.lower name ∧ ∃ earlier later,
        runnerNames = earlier ++ runner :: later ∧
          ∀ other ∈ earlier, ¬Text.lower other <:+: Text.lower name := by
  rw [linkedRunner, List.find?_eq_some_iff_append, occursIn_eq_true_iff]
  simp [← occursIn_eq_true_iff]

theorem linkedRunner_eq_none_iff {runnerNames : List (List Char)} {name : List Char} :
    linkedRunner runnerNames name = none ↔
      ∀ runner ∈ runnerNames, ¬Text.lower runner <:+: Text.lower name := by
  simp [linkedRunner, ← occursIn_eq_true_iff]

theorem linkedRunner_append (runnerNames extra : List (List Char)) (name : List Char) :
    linkedRunner (runnerNames ++ extra) name =
      (linkedRunner runnerNames name).or (linkedRunner extra name) :=
  List.find?_append

end Source

/-- The runner's name stands in the schema's, case left aside. -/
def Schema.Matches (schema : Schema) (runner : Runner) : Prop :=
  Text.lower runner.name <:+: Text.lower schema.name

/-- A schema has the name of the first runner that matches, and none only if none matches. -/
structure Schema.LinkedFirst (runners : List Runner) (schema : Schema) : Prop where
  unlinked : schema.runnerName = none → ∀ runner ∈ runners, ¬schema.Matches runner
  linked : ∀ name, schema.runnerName = some name → ∃ earlier runner later,
    runners = earlier ++ runner :: later ∧ runner.name = name ∧ schema.Matches runner ∧
      ∀ other ∈ earlier, ¬schema.Matches other

theorem Schema.linkedFirst {runners : List Runner} {schema : Schema}
    (h : schema.runnerName = Source.linkedRunner (runners.map (·.name)) schema.name) :
    schema.LinkedFirst runners where
  unlinked := by
    intro hnone runner hrunner
    rw [h, Source.linkedRunner_eq_none_iff] at hnone
    exact hnone runner.name (List.mem_map_of_mem hrunner)
  linked := by
    intro name hname
    rw [h, Source.linkedRunner_eq_some_iff] at hname
    obtain ⟨hmatch, earlier, later, hsplit, hfirst⟩ := hname
    obtain ⟨before, behind, rfl, rfl, hbehind⟩ := List.map_eq_append_iff.1 hsplit
    obtain ⟨runner, after, rfl, rfl, rfl⟩ := List.map_eq_cons_iff.1 hbehind
    exact ⟨before, runner, after, rfl, rfl, hmatch, fun other hother =>
      hfirst other.name (List.mem_map_of_mem hother)⟩

/-- A schema as it was, but perhaps with a link where it had none. -/
structure Schema.Kept (before after : Schema) : Prop where
  name : after.name = before.name
  line : after.line = before.line
  link : ∀ runner, before.runnerName = some runner → after.runnerName = some runner

namespace Source

theorem linkedRunner_of_mem_schemas {source : Source} {runnerNames : List (List Char)}
    {schemas : List Schema} (h : source.schemas runnerNames = .ok schemas) {schema : Schema}
    (hmem : schema ∈ schemas) : schema.runnerName = linkedRunner runnerNames schema.name := by
  rw [schemas_eq] at h
  cases hlisting : source.listing Node.variableNames with
  | error fault =>
    rw [hlisting] at h
    cases h
  | ok listing =>
    rw [hlisting] at h
    obtain rfl := Except.ok.inj h
    obtain ⟨listed, -, rfl⟩ := List.mem_map.1 hmem
    rfl

theorem schemas_kept (source : Source) (runnerNames extra : List (List Char)) :
    (∀ fault, source.schemas runnerNames = .error fault →
        source.schemas (runnerNames ++ extra) = .error fault) ∧
      ∀ fewer, source.schemas runnerNames = .ok fewer →
        ∃ more, source.schemas (runnerNames ++ extra) = .ok more ∧
          List.Forall₂ Schema.Kept fewer more := by
  rw [schemas_eq, schemas_eq]
  cases source.listing Node.variableNames with
  | error fault =>
    exact ⟨fun _ h => h, fun _ h => by cases h⟩
  | ok listing =>
    refine ⟨fun _ h => (by cases h), fun fewer h => ⟨_, rfl, ?_⟩⟩
    obtain rfl := Except.ok.inj h
    rw [List.forall₂_map_left_iff, List.forall₂_map_right_iff, List.forall₂_same]
    intro listed _
    refine ⟨rfl, rfl, fun runner hrunner => ?_⟩
    change linkedRunner runnerNames listed.name = some runner at hrunner
    change linkedRunner (runnerNames ++ extra) listed.name = some runner
    rw [linkedRunner_append, hrunner, Option.some_or]

end Source

/-- The record of a text holds what is found in it. -/
theorem indexTextIn_eq_some {language : List Char} {bytes file : Bytes} {metadata : FileMetadata}
    {notices : List Notice} (h : indexTextIn language bytes file = .ok (some metadata, notices)) :
    ∃ dialect, Dialect.ofLanguage language = .ok dialect ∧
      metadata.runners = (Source.read dialect bytes).runners.toOption.getD [] ∧
      metadata.schemas = ((Source.read dialect bytes).schemas
        (metadata.runners.map (·.name))).toOption.getD [] := by
  rw [indexTextIn] at h
  split at h
  next hmentions =>
    cases hdialect : Dialect.ofLanguage language with
    | error fault =>
      rw [hdialect] at h
      cases h
    | ok dialect =>
      rw [hdialect] at h
      have hindex : indexText dialect bytes file = (some metadata, notices) := Except.ok.inj h
      rw [indexText, if_pos hmentions, Prod.mk.injEq, Option.some.injEq] at hindex
      obtain ⟨rfl, -⟩ := hindex
      exact ⟨dialect, rfl, by dsimp only, by dsimp only⟩
  · cases h

/-- Each schema of a record has the name of the first runner that matches it, if one does, and more
names at the end of the list change no link. -/
theorem schema_links_first_and_kept :
    (∀ (language text : List Char) (file : Bytes) (metadata : FileMetadata) (notices : List Notice),
      indexTextIn language (Utf8.encode text) file = .ok (some metadata, notices) →
        ∃ dialect, Dialect.ofLanguage language = .ok dialect ∧
          let source := Source.read dialect (Utf8.encode text)
          source.runners = .ok metadata.runners ∧
          source.schemas (metadata.runners.map (·.name)) = .ok metadata.schemas ∧
          ∀ schema ∈ metadata.schemas, schema.LinkedFirst metadata.runners) ∧
      ∀ (source : Source) (runnerNames extra : List (List Char)),
        (∀ fault, source.schemas runnerNames = .error fault →
            source.schemas (runnerNames ++ extra) = .error fault) ∧
          ∀ fewer, source.schemas runnerNames = .ok fewer →
            ∃ more, source.schemas (runnerNames ++ extra) = .ok more ∧
              List.Forall₂ Schema.Kept fewer more := by
  refine ⟨fun language text file metadata notices hindex => ?_, Source.schemas_kept⟩
  obtain ⟨dialect, hdialect, hrunners, hschemas⟩ := indexTextIn_eq_some hindex
  have hvalid := Utf8.valid_encode text
  obtain ⟨listing, hlisting, -⟩ := Source.exists_listing
    (Source.read_spelled dialect hvalid Node.everywhere_of_mem_runnerNames)
  obtain ⟨bound, hbound, -⟩ := Source.exists_listing
    (Source.read_spelled dialect hvalid Node.everywhere_of_mem_variableNames)
  have hrunnersOk : (Source.read dialect (Utf8.encode text)).runners = .ok metadata.runners := by
    rw [hrunners, Source.runners_eq, hlisting]
    rfl
  have hschemasOk : (Source.read dialect (Utf8.encode text)).schemas
      (metadata.runners.map (·.name)) = .ok metadata.schemas := by
    rw [hschemas, Source.schemas_eq, hbound]
    rfl
  exact ⟨dialect, hdialect, hrunnersOk, hschemasOk, fun schema hschema =>
    Schema.linkedFirst (Source.linkedRunner_of_mem_schemas hschemasOk hschema)⟩

/-- Of two runners that match, the first is linked; a schema that no runner matches has no link. -/
theorem twoRunners_linked :
    let text := ("export async function get() \x7b 'use runner' \x7d\n" ++
      "export async function getAll() \x7b \x7d\n" ++
      "export const GetAllSchema = 1, schema = 2").toList
    ∃ metadata notices, indexTextIn "typescript".toList (Utf8.encode text) [] =
        .ok (some metadata, notices) ∧
      metadata.schemas.map (·.runnerName) = [some "get".toList, none] ∧
      ∀ schema ∈ metadata.schemas, schema.LinkedFirst metadata.runners := by
  intro text
  have hrecord : ((indexTextIn "typescript".toList (Utf8.encode text) []).toOption.bind (·.1)).map
      (·.schemas.map (·.runnerName)) = some [some "get".toList, none] := by
    decide +kernel
  cases hindex : indexTextIn "typescript".toList (Utf8.encode text) [] with
  | error fault =>
    rw [hindex] at hrecord
    cases hrecord
  | ok answer =>
    obtain ⟨metadata?, notices⟩ := answer
    rw [hindex] at hrecord
    cases metadata? with
    | none => cases hrecord
    | some metadata =>
      obtain ⟨dialect, -, -, -, hlinked⟩ :=
        schema_links_first_and_kept.1 _ _ _ _ _ hindex
      exact ⟨metadata, notices, rfl, Option.some.inj hrecord, hlinked⟩

/-! ## Names in whatever case -/

namespace Source

/-- Every exported variable with "schema" in its name is listed as a schema, with its line. -/
theorem exists_schemas {source : Source} (h : source.Spelled Node.variableNames)
    (runnerNames : List (List Char)) : ∃ schemas, source.schemas runnerNames = .ok schemas ∧
      ∀ declared ∈ source.declared Node.variableNames, ∀ name,
        source.textOf declared.name = .ok name → "schema".toList <:+: Text.lower name →
        ⟨name, linkedRunner runnerNames name, source.lineOf declared.node⟩ ∈ schemas := by
  obtain ⟨listing, hlisting, hall⟩ := exists_listing h
  refine ⟨(listing.filter Listed.isSchema).map (Listed.schema runnerNames), ?_, ?_⟩
  · rw [schemas_eq, hlisting]
    rfl
  · intro declared hdeclared name hname hschema
    have hlisted := hall declared hdeclared name hname
    have hmarked := (occursIn_eq_true_iff _ _).2 hschema
    exact List.mem_map_of_mem (List.mem_filter.2 ⟨hlisted, hmarked⟩)

/-- The source of an exported variable. -/
def exporting (name : List Char) : Source :=
  let front := utf8 "export const "
  let stop := front.length + (Utf8.encode name).length
  ⟨.typescript, front ++ Utf8.encode name,
    .mk .program .plain 0 stop [.mk .exportStatement .plain 0 stop
      [.mk .lexicalDeclaration .plain 7 stop [.mk .variableDeclarator .plain front.length stop
        [.mk .identifier .name front.length stop []]]]]⟩

theorem declared_exporting (name : List Char) :
    ∃ declared, (exporting name).declared Node.variableNames = [declared] ∧
      (exporting name).textOf declared.name = .ok name := by
  have hslice := Bytes.slice_append (utf8 "export const ") (Utf8.encode name) []
  rw [List.append_nil] at hslice
  exact ⟨_, rfl, (congrArg Utf8.decode hslice).trans ((Utf8.decode_eq_ok_iff _ _).2 rfl)⟩

/-- A schema that is named after a listed runner is linked, whatever the source and the list,
exactly if the name of the runner alone settles the form of each sigma in it. -/
theorem named_schemas_linked_iff (runner : List Char) : Text.Firm runner ↔
    ∀ (source : Source) (runnerNames : List (List Char)), runner ∈ runnerNames →
      source.Spelled Node.variableNames → ∃ schemas, source.schemas runnerNames = .ok schemas ∧
        (∀ declared ∈ source.declared Node.variableNames, ∀ name,
          source.textOf declared.name = .ok name → "schema".toList <:+: Text.lower name →
          ∃ schema ∈ schemas, schema.name = name ∧ schema.line = source.lineOf declared.node) ∧
        ∀ schema ∈ schemas, Text.NamedAfter schema.name runner →
          ∃ linked ∈ runnerNames, schema.runnerName = some linked := by
  constructor
  · intro hfirm source runnerNames hrunner hspelled
    obtain ⟨schemas, hschemas, hall⟩ := exists_schemas hspelled runnerNames
    refine ⟨schemas, hschemas, fun declared hdeclared name hname hschema =>
      ⟨_, hall declared hdeclared name hname hschema, rfl, rfl⟩, fun schema hschema hnamed => ?_⟩
    have hinfix := Text.lower_infix_of_firm hfirm hnamed
    rw [linkedRunner_of_mem_schemas hschemas hschema]
    cases hlink : linkedRunner runnerNames schema.name with
    | none => exact absurd hinfix (linkedRunner_eq_none_iff.1 hlink runner hrunner)
    | some linked => exact ⟨linked, List.mem_of_find?_eq_some hlink, rfl⟩
  · intro hlinks
    by_contra hfirm
    obtain ⟨name, hnamed, hword, hother⟩ := Text.exists_not_infix_of_not_firm hfirm
      "schema".toList (by decide) (by decide +kernel) (by decide +kernel) (by decide +kernel)
    obtain ⟨declared, hdeclared, hname⟩ := declared_exporting name
    have hspelled : (exporting name).Spelled Node.variableNames := by
      rw [Spelled, hdeclared, List.forall_mem_singleton]
      exact ⟨name, (Utf8.decode_eq_ok_iff _ _).1 hname⟩
    obtain ⟨schemas, hschemas, hall, hlinked⟩ :=
      hlinks (exporting name) [runner] (List.mem_singleton_self _) hspelled
    obtain ⟨schema, hschema, rfl, -⟩ :=
      hall declared (hdeclared ▸ List.mem_singleton_self _) name hname hword
    obtain ⟨linked, -, hlink⟩ := hlinked schema hschema hnamed
    rw [linkedRunner_of_mem_schemas hschemas hschema,
      linkedRunner_eq_none_iff.2 (List.forall_mem_singleton.2 hother)] at hlink
    cases hlink

/-- A sigma inside a name is small wherever the name stands. -/
theorem inner_sigma_linked :
    Text.Firm "ΦΑΣΗ".toList ∧ ∃ schemas,
      (Source.read .typescript (Utf8.encode "export const φασηSchema = 1".toList)).schemas
        ["ΦΑΣΗ".toList] = .ok schemas ∧
      ∃ schema ∈ schemas, schema.name = "φασηSchema".toList ∧
        ∃ linked ∈ ["ΦΑΣΗ".toList], schema.runnerName = some linked := by
  have hfirm : Text.Firm "ΦΑΣΗ".toList := by decide +kernel
  have hspelled := read_spelled .typescript (Utf8.valid_encode "export const φασηSchema = 1".toList)
    Node.everywhere_of_mem_variableNames
  have hnamed : Text.NamedAfter "φασηSchema".toList "ΦΑΣΗ".toList :=
    ⟨"φαση".toList, ⟨[], "Schema".toList, by decide⟩, by decide +kernel⟩
  have hword : "schema".toList <:+: Text.lower "φασηSchema".toList :=
    (occursIn_eq_true_iff _ _).1 (by decide +kernel)
  generalize hread : Source.read .typescript
    (Utf8.encode "export const φασηSchema = 1".toList) = source at *
  have hdeclared : ((source.declared Node.variableNames).map fun declared =>
      (source.textOf declared.name).toOption) = [some "φασηSchema".toList] := by
    rw [← hread]
    decide +kernel
  obtain ⟨schemas, hschemas, hall, hlinked⟩ := (named_schemas_linked_iff _).1 hfirm source
    ["ΦΑΣΗ".toList] (List.mem_singleton_self _) hspelled
  obtain ⟨declared, more, hsplit, htext, -⟩ := List.map_eq_cons_iff.1 hdeclared
  obtain ⟨schema, hschema, hname, -⟩ :=
    hall declared (by simp [hsplit]) _ (eq_ok_of_toOption htext) hword
  exact ⟨hfirm, schemas, hschemas, schema, hschema, hname, hlinked schema hschema (hname ▸ hnamed)⟩

/-- A sigma at the end of a name has another form there than in a longer name. -/
theorem final_sigma_unlinked :
    Text.NamedAfter "ΑΣSchema".toList "ΑΣ".toList ∧
      (Source.read .typescript (Utf8.encode "export const ΑΣSchema = 1;\n".toList)).schemas
        ["ΑΣ".toList] = .ok [⟨"ΑΣSchema".toList, none, 1⟩] := by
  refine ⟨⟨"ΑΣ".toList, ⟨[], "Schema".toList, by decide⟩, rfl⟩, eq_ok_of_toOption ?_⟩
  decide +kernel

end Source

end Prologue
