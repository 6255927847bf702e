import RolloutTree.Api.Path
import RolloutTree.Api.Server
import RolloutTree.Api.Version
import RolloutTree.Cluster.Workload
import RolloutTree.Text.Split

/-!
# What kinds a server serves

A server lists its groups, the versions of each group and the kinds of each version. Of a kind that
several versions of a group have, the most preferred version counts. A kind is looked up by its own
name or its plural; if several groups have it, the group whose name comes first counts. If several
kinds of that group have the name, the one that is met first counts.

## Main definitions

* `Served`, `Group`, `Group.kinds`.
* `discover`: the groups of a server; `discoverKind`: one kind that is known by name.
* `Tour`: a way through the groups and their kinds, with `Tour.resolve`.
* `resolve`: the kind that a name stands for.
-/

namespace RolloutTree.Api

/-- A kind that is served, and whether its objects belong to namespaces. -/
structure Served where
  resource : Resource
  isNamespaced : Bool
  deriving DecidableEq, Repr

/-- A kind as a version of a group lists it. -/
structure Listed where
  name : String
  kind : String
  group : Option String
  version : Option String
  isNamespaced : Bool
  deriving DecidableEq, Repr

/-- Decodes a listed kind. -/
def Listed.decode : Decoder Listed := fun v => do
  let f ← Fields.ofObject? v
  for name in ["singularName", "storageVersionHash"] do
    let _ ← f.optional name Decode.text
  for name in ["categories", "shortNames", "verbs"] do
    let _ ← f.optional name (Decode.list Decode.text)
  return { name := ← f.orDefault "name" "" Decode.text
           kind := ← f.orDefault "kind" "" Decode.text
           group := ← f.optional "group" Decode.text
           version := ← f.optional "version" Decode.text
           isNamespaced := ← f.orDefault "namespaced" false Decode.flag }

/-- The kinds that one version of a group lists. -/
structure Listing where
  /-- The group and the version. -/
  groupVersion : String
  kinds : List Listed
  deriving DecidableEq, Repr

namespace Listing

/-- Decodes the kinds of a version. -/
def decode : Decoder Listing := fun v => do
  let f ← Decode.ofKind "APIResourceList" "v1" v
  return { groupVersion := ← f.orDefault "groupVersion" "" Decode.text
           kinds := ← f.orDefault "resources" [] (Decode.list Listed.decode) }

/-- The group and the version, which the first slash divides; without a slash the group is the core
group. -/
def split (groupVersion : String) : String × String :=
  (Text.cut? '/' groupVersion).getD ("", groupVersion)

/-- A listed kind, served in the version of the list unless it says otherwise. -/
def serve (l : Listing) (k : Listed) : Served :=
  let (group, version) := split l.groupVersion
  { resource :=
      { group := k.group.getD group, version := k.version.getD version
        apiVersion := Resource.groupVersion group version, kind := k.kind, plural := k.name }
    isNamespaced := ((l.kinds.find? (·.name = k.name)).map (·.isNamespaced)).getD false }

/-- Whether the listed kind is a part of another one, which has no objects of its own. -/
def isPart (k : Listed) : Bool := k.name.toList.contains '/'

/-- The kinds that have objects of their own. -/
def served (l : Listing) : List Served := (l.kinds.filter (!isPart ·)).map l.serve

end Listing

/-- A group: its name, and the kinds of its versions, the most preferred version first. -/
structure Group where
  name : String
  versions : List (String × List Served)
  deriving DecidableEq, Repr

namespace Group

/-- The group with its versions in the order of preference. -/
def ofVersions (name : String) (versions : List (String × List Served)) : Group :=
  ⟨name, versions.mergeSort fun a b => (Version.parse a.1).isPreferred (.parse b.1)⟩

/-- All kinds of all versions. -/
def all (g : Group) : List Served := g.versions.flatMap (·.2)

/-- The most preferred version of a kind. -/
def best? (g : Group) (kind : String) : Option Served :=
  ((g.all.filter (·.resource.kind = kind)).mergeSort fun a b =>
    (Version.parse a.resource.version).isPreferred (.parse b.resource.version)).head?

/-- The kinds of the group, each in its most preferred version, in the order of their names. -/
def kinds (g : Group) : List Served :=
  ((g.all.map (·.resource.kind)).eraseDups.mergeSort fun a b => decide (a ≤ b)).filterMap g.best?

end Group

/-- The groups with one more; a group of the same name is replaced. -/
def putGroup (groups : List Group) (g : Group) : List Group :=
  groups.filter (·.name ≠ g.name) ++ [g]

/-! ### Asking a server -/

/-- The name of a group and the names of its versions, each with the group's. -/
structure GroupEntry where
  name : String
  versions : List (String × String)
  deriving DecidableEq, Repr

/-- Decodes a version of a group: its name with the group's, and its own. -/
def GroupEntry.decodeVersion : Decoder (String × String) := fun v => do
  let f ← Fields.ofObject? v
  return (← f.orDefault "groupVersion" "" Decode.text, ← f.orDefault "version" "" Decode.text)

/-- Decodes an address range that a server notes for its clients. -/
def decodeAddresses : Decoder Unit := fun v => do
  let f ← Fields.ofObject? v
  for name in ["clientCIDR", "serverAddress"] do
    let _ ← f.optional name Decode.text

/-- Decodes a group. -/
def GroupEntry.decode : Decoder GroupEntry := fun v => do
  let f ← Decode.ofKind "APIGroup" "v1" v
  let _ ← f.optional "preferredVersion" decodeVersion
  let _ ← f.optional "serverAddressByClientCIDRs" (Decode.list decodeAddresses)
  return { name := ← f.orDefault "name" "" Decode.text
           versions := ← f.orDefault "versions" [] (Decode.list decodeVersion) }

/-- Decodes the list of groups. -/
def decodeGroups : Decoder (List GroupEntry) := fun v => do
  (← Decode.ofKind "APIGroupList" "v1" v).orDefault "groups" [] (Decode.list GroupEntry.decode)

/-- Decodes the list of the core group's versions. -/
def decodeCore : Decoder (List String) := fun v => do
  let f ← Decode.ofKind "APIVersions" "v1" v
  let _ ← f.optional "serverAddressByClientCIDRs" (Decode.list decodeAddresses)
  f.orDefault "versions" [] (Decode.list Decode.text)

namespace Exchange

/-- A request for a path that the server itself has named. -/
def askNamed {α : Type} (value : Decoder α) (path : String) : Exchange α :=
  match Path.requested? path with
  | some path => ask value path
  | none => throw .badPath

/-- The kinds of the versions of a group, which has to have some. -/
def discoverGroup (name : String) (versions : List (String × String)) : Exchange Group := do
  if versions.isEmpty then throw (.discovery (.emptyGroup name))
  let listings ← versions.mapM fun (version, path) => do
    return (version, (← askNamed Listing.decode path).served)
  return .ofVersions name listings

/-- The groups that the server serves, the core group last. -/
def discover : Exchange (List Group) := do
  let mut groups := []
  for entry in ← ask decodeGroups "/apis" do
    let paths := entry.versions.map fun (groupVersion, version) =>
      (version, "/apis/" ++ groupVersion)
    groups := putGroup groups (← discoverGroup entry.name paths)
  let core ← ask decodeCore "/api"
  return putGroup groups
    (← discoverGroup "" (core.map fun version => (version, "/api/" ++ version)))

/-- The kind as the server serves it, if its group, version and name are known. -/
def discoverKind (r : Resource) : Exchange Served := do
  let listing ← askNamed Listing.decode
    ((if r.group.isEmpty then "/api/" else "/apis/") ++ r.apiVersion)
  match listing.kinds.find? fun k => k.kind = r.kind && !Listing.isPart k with
  | some k => return listing.serve k
  | none => throw (.discovery (.missingKind r.group r.version r.kind))

end Exchange

/-! ### Looking up a kind -/

/-- Of two entries the one whose name comes first; of equal names the first entry. -/
def earlier (a b : String × Served) : String × Served := if b.1 < a.1 then b else a

/-- The entry whose name comes first. -/
def earliest? : List (String × Served) → Option (String × Served)
  | [] => none
  | first :: rest => some (rest.foldl earlier first)

/-- A way through groups: the name of each group that is met, with its kinds as they are met. The
groups are in no particular order, and neither are the kinds of a group. -/
abbrev Tour := List (String × List Served)

namespace Tour

/-- The kinds that the name stands for, with the names of their groups. -/
def matching (tour : Tour) (name : String) : List (String × Served) :=
  tour.flatMap fun (group, kinds) => (kinds.filter (·.resource.isNamed name)).map (group, ·)

/-- The kind that the name stands for: in the group whose name comes first of those that have it,
the kind that is met first. -/
def resolve (tour : Tour) (name : String) : Option Served :=
  (earliest? (tour.matching name)).map (·.2)

end Tour

/-- The way through the groups and their kinds in the order in which they are given. -/
def tour (groups : List Group) : Tour := groups.map fun g => (g.name, g.kinds)

/-- The kind that the name stands for. -/
def resolve (groups : List Group) (name : String) : Option Served := (tour groups).resolve name

end RolloutTree.Api
