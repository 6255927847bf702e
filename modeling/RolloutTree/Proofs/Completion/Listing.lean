import Mathlib.Data.List.Forall2
import RolloutTree.Completion.Listing
import RolloutTree.Proofs.Api.Requests
import RolloutTree.Proofs.Completion.Candidates

/-!
# Names that are listed and completed

Names go from the list of objects to the candidates in one text, with spaces between them. Where no
name has a space, nothing is lost and nothing comes in between: an object without a name leaves no
trace, and an empty name leaves a space too many, behind which nothing is read. What is completed
are the names of the objects, in their order and as often as they occur.

The names are found by a path through the list. It leads to the place where the metadata of an
object are read, so that the two always tell the same name.

## Main definitions

* `HaveMetadata`: the metadata of objects, one after the other.
* `namesOf`: the names in metadata.
* `namePath`: the path to the names.

## Main results

* `Decode.name_of_dynamic`: the name of an object is the text at its place.
* `project_namePath`: the text that is made of the names.
* `exists_haveMetadata_of_objects?`: objects that a server lists have metadata.
* `completes_listed_names`: what is completed are the names of the objects.
-/

namespace RolloutTree

/-! ### The name of an object -/

theorem Fields.find?_of_ofObject? {v : Json} {f : Fields} (h : Fields.ofObject? v = some f)
    (name : String) : f.find? name = v.member? name := by
  cases v with
  | object members =>
    rw [← Option.some.inj h]
    rfl
  | _ => exact nomatch h

/-- Of a text that may be absent or null, what is read is the text at its place. -/
theorem Fields.text_of_optional {f : Fields} {name : String} {found : Option String}
    (h : f.optional name Decode.text = some found) : (f.find? name).bind Decode.text = found := by
  rw [Fields.optional] at h
  cases hv : f.find? name with
  | none =>
    rw [hv] at h
    exact Option.some.inj h
  | some v =>
    rw [hv] at h
    cases v with
    | null => exact Option.some.inj h
    | string s => exact Option.some.inj h
    | _ => exact nomatch h

theorem Metadata.name_of_decode {v : Json} {m : Metadata} (h : Metadata.decode v = some m) :
    (v.member? "name").bind Decode.text = m.name := by
  simp only [Metadata.decode, Option.bind_eq_bind, Option.bind_eq_some_iff] at h
  obtain ⟨f, hf, -, -, -, -, -, -, -, -, name, hname, _, -, _, -, _, -, _, -, _, -, _, -, hm⟩ := h
  rw [← Fields.find?_of_ofObject? hf, Fields.text_of_optional hname, ← Option.some.inj hm]

/-- The name of an object is the text at its place. -/
theorem Decode.name_of_dynamic {v : Json} {m : Metadata} {f : Fields}
    (h : Decode.dynamic v = some (m, f)) :
    ((v.member? "metadata").bind (·.member? "name")).bind Decode.text = m.name := by
  simp only [Decode.dynamic, Option.bind_eq_bind, Option.bind_eq_some_iff] at h
  obtain ⟨f, hf, metadata, hmetadata, heq⟩ := h
  -- times are cut to whole seconds, but the name is kept
  have hname : metadata.name = m.name := by
    rw [← (Prod.mk.inj (Option.some.inj heq)).1]
    rfl
  rw [← hname, ← Fields.find?_of_ofObject? hf]
  rw [Fields.withDefault] at hmetadata
  cases hv : f.find? "metadata" with
  | none =>
    rw [hv] at hmetadata
    rw [← Option.some.inj hmetadata]
    rfl
  | some w =>
    rw [hv] at hmetadata
    exact Metadata.name_of_decode hmetadata

namespace Completion

/-- The metadata of objects, one after the other. -/
def HaveMetadata : List Json → List Metadata → Prop :=
  List.Forall₂ fun v m => ∃ f, Decode.dynamic v = some (m, f)

/-- The names in metadata; an empty text is no name. -/
def namesOf (metadata : List Metadata) : List String :=
  (metadata.filterMap (·.name)).filter (· ≠ "")

/-! ### The path to the names -/

/-- The path to the names: from the items to each of them, to its metadata and to its name. -/
def namePath : JsonPath.Path :=
  ⟨[.children [.name "items"], .children [.wildcard], .children [.name "metadata"],
    .children [.name "name"]]⟩

theorem parse?_of_segments {text : String} {rest : List Char} {segments : List JsonPath.Segment}
    (h : text.toList = '$' :: rest)
    (hsegments : JsonPath.Reader.segments (4 * rest.length + 4) rest = some (segments, [])) :
    JsonPath.Path.parse? text = some ⟨segments⟩ := by
  rw [JsonPath.Path.parse?, h]
  split
  · rename_i heq
    rw [← (List.cons.inj heq).2, hsegments]
  · rename_i hne
    exact absurd rfl (hne rest)

/-- The segments are read in six steps. -/
theorem segments_nameTemplate (fuel : Nat) :
    JsonPath.Reader.segments (fuel + 6) ".items[*].metadata.name".toList =
      some (namePath.segments, []) := by
  rfl

theorem parse?_nameTemplate : JsonPath.Path.parse? nameTemplate = some namePath :=
  parse?_of_segments rfl (segments_nameTemplate 90)

theorem follow_name (root v : Json) (name : String) :
    JsonPath.Segment.follow root (.children [.name name]) v = (v.member? name).toList := by
  simp [JsonPath.Segment.follow, JsonPath.selectAll, JsonPath.Selector.select]

theorem follow_wildcard (root v : Json) :
    JsonPath.Segment.follow root (.children [.wildcard]) v = JsonPath.childValues v := by
  simp [JsonPath.Segment.follow, JsonPath.selectAll, JsonPath.Selector.select]

/-- The path leads to the names that are there, in the order of the items. -/
theorem query_namePath (objects : List Json) :
    namePath.query (.object [("items", .array objects)]) =
      objects.filterMap fun v => (v.member? "metadata").bind (·.member? "name") := by
  have hitems : (Json.object [("items", .array objects)]).member? "items" =
    some (.array objects) := rfl
  simp only [namePath, JsonPath.Path.query, JsonPath.walk, follow_name, follow_wildcard, hitems,
    List.flatMap_singleton, Option.toList_some, JsonPath.childValues, List.flatMap_assoc]
  rw [List.filterMap_eq_flatMap_toList]
  refine List.flatMap_congr fun v _ => ?_
  cases v.member? "metadata" <;> simp

/-- The text of a list of objects is made of their names. -/
theorem project_namePath {objects : List Json} {metadata : List Metadata}
    (h : HaveMetadata objects metadata) :
    project objects namePath = " ".intercalate (metadata.filterMap (·.name)) := by
  rw [project, query_namePath, List.filterMap_filterMap]
  congr 1
  induction h with
  | nil => rfl
  | cons hv _ ih =>
    obtain ⟨f, hv⟩ := hv
    rw [List.filterMap_cons, List.filterMap_cons, Decode.name_of_dynamic hv, ih]

/-! ### What a server lists -/

/-- The items of a list are decoded one by one. -/
theorem exists_mapM_of_listing {α : Type} {item : Decoder α} {v : Json} {found : List α}
    (h : Decode.listing item v = some found) :
    ∃ items : List Json, items.mapM item = some found := by
  simp only [Decode.listing, Option.bind_eq_bind, Option.bind_eq_some_iff] at h
  obtain ⟨f, -, _, -, listed, hlisted, h⟩ := h
  obtain rfl := Option.some.inj h
  obtain ⟨items, -, hitems⟩ := Option.bind_eq_some_iff.mp hlisted
  cases items with
  | null =>
    cases hitems
    exact ⟨[], rfl⟩
  | array items =>
    obtain ⟨found, hfound, rfl⟩ := Option.map_eq_some_iff.mp hitems
    exact ⟨items, hfound⟩
  | _ => exact nomatch hitems

theorem exists_haveMetadata_of_mapM {items objects : List Json}
    (h : items.mapM Decode.general = some objects) :
    ∃ metadata, HaveMetadata objects metadata := by
  induction items generalizing objects with
  | nil =>
    cases h
    exact ⟨[], .nil⟩
  | cons v items ih =>
    simp only [List.mapM_cons, Option.bind_eq_bind, Option.bind_eq_some_iff] at h
    obtain ⟨w, hw, rest, hrest, h⟩ := h
    obtain rfl := Option.some.inj h
    obtain ⟨⟨m, f⟩, hv, rfl⟩ := Option.map_eq_some_iff.mp hw
    obtain ⟨metadata, hmetadata⟩ := ih hrest
    exact ⟨m :: metadata, .cons ⟨f, hv⟩ hmetadata⟩

/-- Objects that a server lists have metadata. -/
theorem exists_haveMetadata_of_objects? {server : Api.Server} {kind place : String}
    {objects : List Json} (h : ((objects? kind place).run server).1 = .ok (some objects)) :
    ∃ metadata, HaveMetadata objects metadata := by
  change (objects? kind place server []).1 = .ok (some objects) at h
  rw [objects?] at h
  obtain ⟨served, _, -, h⟩ := Api.Exchange.exists_of_bind_eq_ok h
  cases served with
  | none => exact nomatch h
  | some served =>
    obtain ⟨path, _, -, h⟩ := Api.Exchange.exists_of_bind_eq_ok h
    obtain ⟨found, _, hfound, h⟩ := Api.Exchange.exists_of_bind_eq_ok h
    obtain rfl := Option.some.inj (Except.ok.inj h)
    obtain ⟨-, -, v, -, -, -, hv⟩ := Api.Exchange.answers_of_ask_eq_ok hfound
    obtain ⟨items, hitems⟩ := exists_mapM_of_listing hv
    exact exists_haveMetadata_of_mapM hitems

/-- Where the server lists objects, the lister gives the text of their names. -/
theorem listNames_of_objects? {server : Api.Server} {config : AccessConfig}
    {context place : Option String} {kind default : String} {objects : List Json}
    (hplace : config.place context = .ok default)
    (h : ((objects? kind (place.getD default)).run server).1 = .ok (some objects)) :
    (listNames server config context { kind, place }).1 = .ok (project objects namePath) := by
  rw [listNames, hplace, parse?_nameTemplate]
  dsimp only
  rw [h]

/-! ### What is completed -/

/-- **Listing and completing agree on the names.** Take objects of any kind with their metadata,
whose names have no space. The path to the names can be read, and in the text that it leads to the
names of the objects are found, in their order and as often as they occur; an object without a name
or with an empty one has none among them.

* Take a lister that gives this text for a kind. Behind an empty text the candidates are the names,
  and then the type that is offered for the kind. Behind a text without a slash they are the names
  that begin with it, and then the offered type if it does so too. Behind the kind and a slash they
  are the names that begin with what follows, with the kind and the slash before each.
* A server that lists the objects makes such a lister. -/
theorem completes_listed_names {objects : List Json} {metadata : List Metadata}
    (hobjects : HaveMetadata objects metadata)
    (hspaces : ∀ m ∈ metadata, ∀ name, m.name = some name → ' ' ∉ name.toList) :
    ∃ path, JsonPath.Path.parse? nameTemplate = some path ∧
      names (project objects path) = namesOf metadata ∧
      (∀ (lister : NameQuery → Option String) (place : Option String) (kind : String),
        lister { kind, place } = some (project objects path) →
          (complete lister place kind "").candidates =
            namesOf metadata ++ (offers kind).map (· ++ "/") ∧
          (∀ start : String, '/' ∉ start.toList →
            (complete lister place kind start).candidates =
              (namesOf metadata).filter (start.toList <+: ·.toList) ++
                ((offers kind).filter (start.toList <+: ·.toList)).map (· ++ "/")) ∧
          ('/' ∉ kind.toList → ∀ other start,
            (complete lister place other (kind ++ "/" ++ start)).candidates =
              ((namesOf metadata).filter (start.toList <+: ·.toList)).map (kind ++ "/" ++ ·))) ∧
      ∀ server config context place kind default, config.place context = .ok default →
        ((objects? kind (place.getD default)).run server).1 = .ok (some objects) →
          (listNames server config context { kind, place }).1 = .ok (project objects path) := by
  have hnames : names (project objects namePath) = namesOf metadata := by
    rw [project_namePath hobjects, namesOf]
    refine names_intercalate fun name hname => ?_
    obtain ⟨m, hm, hname⟩ := List.mem_filterMap.mp hname
    exact hspaces m hm name hname
  refine ⟨namePath, parse?_nameTemplate, hnames, fun lister place kind hlister => ?_,
    fun _ _ _ _ _ _ hplace h => listNames_of_objects? hplace h⟩
  have hstart (start : String) (h : '/' ∉ start.toList) :
      (complete lister place kind start).candidates =
        (namesOf metadata).filter (start.toList <+: ·.toList) ++
          ((offers kind).filter (start.toList <+: ·.toList)).map (· ++ "/") := by
    rw [complete_start lister place kind h, hlister, Option.getD_some, hnames]
    simp only [startsWith_eq_decide]
  refine ⟨?_, hstart, fun hkind other start => ?_⟩
  · rw [hstart "" List.not_mem_nil]
    simp
  · rw [complete_qualified lister place other hkind, hlister, Option.getD_some, hnames]
    simp only [startsWith_eq_decide]

/-- An object without metadata and one with an empty name are not completed; a name that two objects
have is completed twice. -/
theorem completes_listed_names_shop :
    let named (name : String) : Json :=
      .object [("metadata", .object [("name", .string name)])]
    ∃ path, JsonPath.Path.parse? nameTemplate = some path ∧
      ∀ lister : NameQuery → Option String,
        lister ⟨"rollout", none, nameTemplate⟩ =
          some (project [named "shop", .object [], named "", named "web", named "shop"] path) →
        (complete lister none "rollout" "").candidates = ["shop", "web", "shop", "rollouts/"] ∧
          (complete lister none "rollout" "sh").candidates = ["shop", "shop"] := by
  intro named
  have hobjects : HaveMetadata [named "shop", .object [], named "", named "web", named "shop"]
      [{ name := some "shop" }, {}, { name := some "" }, { name := some "web" },
        { name := some "shop" }] :=
    .cons ⟨_, rfl⟩ (.cons ⟨_, rfl⟩ (.cons ⟨_, rfl⟩ (.cons ⟨_, rfl⟩ (.cons ⟨_, rfl⟩ .nil))))
  obtain ⟨path, hpath, -, hcandidates, -⟩ := completes_listed_names hobjects (by decide)
  refine ⟨path, hpath, fun lister hlister => ?_⟩
  obtain ⟨hall, hstart, -⟩ := hcandidates lister none "rollout" hlister
  exact ⟨hall.trans (by decide), (hstart "sh" (by decide)).trans (by decide)⟩

end Completion

end RolloutTree
