import Mathlib.Data.List.Forall2
import RolloutTree.Json.Decode

/-!
# Values that grow

A record has fields with names of their own, and reads nothing else of an object. A value grows when
members are added to the objects in it that are read as records, at any number of places, each under
a name that is no field of the record there. What is read of the value stays the same.

How a value may grow follows how it is read: a record grows by new members and in its fields, where
each field has a way of growing; a list grows in its items. Any other value is kept.

## Main definitions

* `Growth`: a way in which a value may grow; `MembersGrow`, `ItemsGrow`, `RecordGrows`, `ListGrows`.
* `Fields.Grow`: the values of known fields, before and after.
* `Decode.Ignores`: a decoder gives the same meaning before and after.

## Main results

* `MembersGrow.lookup`, `ItemsGrow.lookup`: what is found under the name of a field.
* `Decode.Ignores.nullable`, `Decode.Ignores.list`, `Decode.Ignores.record`: decoders of parts and
  of records do not see that a value has grown.
-/

namespace RolloutTree

/-- A way in which a value may grow: from the first value to the second. -/
abbrev Growth := Json → Json → Prop

/-- A field whose value is kept as it is. -/
abbrev kept (name : String) : String × Growth := (name, Eq)

/-- The members of an object that is read as a record, before and after it has grown. The values of
its fields grow each in their way, and other members stay; new members have names that are no
fields. -/
inductive MembersGrow (fields : List (String × Growth)) :
    List (String × Json) → List (String × Json) → Prop
  | nil : MembersGrow fields [] []
  | field {name : String} {growth : Growth} {v w : Json} {members more : List (String × Json)}
      (hname : fields.lookup name = some growth) (hv : growth v w)
      (h : MembersGrow fields members more) :
      MembersGrow fields ((name, v) :: members) ((name, w) :: more)
  | other {name : String} (v : Json) {members more : List (String × Json)}
      (hname : fields.lookup name = none) (h : MembersGrow fields members more) :
      MembersGrow fields ((name, v) :: members) ((name, v) :: more)
  | new {name : String} (v : Json) {members more : List (String × Json)}
      (hname : fields.lookup name = none) (h : MembersGrow fields members more) :
      MembersGrow fields members ((name, v) :: more)

/-- The items of an array that is read as a record: each is the value of the field at its place. -/
inductive ItemsGrow : List Growth → List Json → List Json → Prop
  | missing (growths : List Growth) : ItemsGrow growths [] []
  | surplus (items : List Json) : ItemsGrow [] items items
  | field {growth : Growth} {growths : List Growth} {v w : Json} {items more : List Json}
      (hv : growth v w) (h : ItemsGrow growths items more) :
      ItemsGrow (growth :: growths) (v :: items) (w :: more)

/-- A value that is read as a record with the fields has grown. -/
inductive RecordGrows (fields : List (String × Growth)) : Growth
  | same (v : Json) : RecordGrows fields v v
  | object {members more : List (String × Json)} (h : MembersGrow fields members more) :
      RecordGrows fields (.object members) (.object more)
  | array {items more : List Json} (h : ItemsGrow (fields.map Prod.snd) items more) :
      RecordGrows fields (.array items) (.array more)

/-- A value that is read as a list has grown in its items. -/
inductive ListGrows (item : Growth) : Growth
  | same (v : Json) : ListGrows item v v
  | array {items more : List Json} (h : List.Forall₂ item items more) :
      ListGrows item (.array items) (.array more)

/-! ### What is found under a name -/

/-- The values of known fields, before and after a record has grown. -/
def Fields.Grow (fields : List (String × Growth)) (f g : Fields) : Prop :=
  ∀ name growth, fields.lookup name = some growth →
    Option.Rel growth (f.find? name) (g.find? name)

section Lookup

variable {fields : List (String × Growth)} {name : String} {growth : Growth}

theorem lookup_cons_of_ne {α : Type} {members : List (String × α)} {other : String} {v : α}
    (h : name ≠ other) : List.lookup name ((other, v) :: members) = members.lookup name := by
  rw [List.lookup_cons, beq_false_of_ne h]

theorem ne_of_lookup {other : String} (hname : fields.lookup name = some growth)
    (hother : fields.lookup other = none) : name ≠ other := by
  rintro rfl
  exact nomatch hname.symm.trans hother

/-- Under the name of a field its value is found, as it has grown. -/
theorem MembersGrow.lookup {members more : List (String × Json)}
    (h : MembersGrow fields members more) (hname : fields.lookup name = some growth) :
    Option.Rel growth (members.lookup name) (more.lookup name) := by
  induction h with
  | nil => exact .none
  | @field other growth' v w members more hother hv _ ih =>
    by_cases heq : name = other
    · subst heq
      obtain rfl := Option.some.inj (hname.symm.trans hother)
      simpa using Option.Rel.some hv
    · rwa [lookup_cons_of_ne heq, lookup_cons_of_ne heq]
  | other v hother _ ih =>
    have hne := ne_of_lookup hname hother
    rwa [lookup_cons_of_ne hne, lookup_cons_of_ne hne]
  | new v hother _ ih => rwa [lookup_cons_of_ne (ne_of_lookup hname hother)]

/-- At the place of a field its value is found, as it has grown. -/
theorem ItemsGrow.lookup : (fields : List (String × Growth)) → {items more : List Json} →
    ItemsGrow (fields.map Prod.snd) items more → fields.lookup name = some growth →
      Option.Rel growth (((fields.map Prod.fst).zip items).lookup name)
        (((fields.map Prod.fst).zip more).lookup name)
  | [], _, _, _, hname => nomatch hname
  | _ :: _, _, _, .missing _, _ => .none
  | (other, growth') :: fields, _, _, .field hv h, hname => by
    by_cases heq : name = other
    · subst heq
      obtain rfl : growth' = growth := by simpa using hname
      simpa using Option.Rel.some hv
    · rw [lookup_cons_of_ne heq] at hname
      simpa only [List.map_cons, List.zip_cons_cons, lookup_cons_of_ne heq] using
        ItemsGrow.lookup fields h hname

theorem ItemsGrow.length_eq {growths : List Growth} {items more : List Json}
    (h : ItemsGrow growths items more) : items.length = more.length := by
  induction h with
  | missing => rfl
  | surplus => rfl
  | field _ _ ih => rw [List.length_cons, List.length_cons, ih]

end Lookup

/-! ### What is read -/

namespace Decode

variable {α : Type} {growth : Growth} {fields : List (String × Growth)}

/-- The decoder gives a value the meaning that it had before it has grown. -/
def Ignores (growth : Growth) (decode : Decoder α) : Prop :=
  ∀ v w, growth v w → decode w = decode v

/-- A value that is kept keeps its meaning. -/
theorem ignores_kept (decode : Decoder α) : Ignores Eq decode := by
  rintro v _ rfl
  rfl

theorem Ignores.mapM {item : Decoder α} (hitem : Ignores growth item) {items more : List Json}
    (h : List.Forall₂ growth items more) : more.mapM item = items.mapM item := by
  induction h with
  | nil => rfl
  | cons hv _ ih => rw [List.mapM_cons, List.mapM_cons, hitem _ _ hv, ih]

theorem Ignores.list {item : Decoder α} (hitem : Ignores growth item) :
    Ignores (ListGrows growth) (list item) := by
  intro v w h
  cases h with
  | same => rfl
  | array h => exact hitem.mapM h

/-- A record that grows is no more and no less null than before. -/
theorem Ignores.nullable {decode : Decoder α} (h : Ignores (RecordGrows fields) decode) :
    Ignores (RecordGrows fields) (nullable decode) := by
  intro v w hgrows
  have hdecode := h v w hgrows
  cases hgrows with
  | same => rfl
  | object => exact congrArg (Option.map some) hdecode
  | array => exact congrArg (Option.map some) hdecode

end Decode

namespace Fields.Grow

variable {α : Type} {fields : List (String × Growth)} {growth : Growth} {f g : Fields}
  {value : Decoder α}

theorem optional (h : Grow fields f g) (name : String) (hname : fields.lookup name = some growth)
    (hvalue : Decode.Ignores growth (Decode.nullable value)) :
    g.optional name value = f.optional name value := by
  have hrel := h name growth hname
  rw [Fields.optional, Fields.optional]
  generalize f.find? name = found at hrel ⊢
  generalize g.find? name = grown at hrel ⊢
  cases hrel with
  | none => rfl
  | some hv => exact hvalue _ _ hv

theorem withDefault (h : Grow fields f g) (name : String)
    (hname : fields.lookup name = some growth) (hvalue : Decode.Ignores growth value)
    (default : α) : g.withDefault name default value = f.withDefault name default value := by
  have hrel := h name growth hname
  rw [Fields.withDefault, Fields.withDefault]
  generalize f.find? name = found at hrel ⊢
  generalize g.find? name = grown at hrel ⊢
  cases hrel with
  | none => rfl
  | some hv => exact hvalue _ _ hv

end Fields.Grow

namespace Decode

variable {α : Type} {fields : List (String × Growth)} {decode : Decoder α}
  {read : Fields → Option α}

/-- A record keeps its meaning when it grows, if its fields do. -/
theorem Ignores.record
    (hdecode : ∀ v, decode v = (Fields.ofRecord? (fields.map Prod.fst) v).bind read)
    (hread : ∀ f g, Fields.Grow fields f g → read g = read f) :
    Ignores (RecordGrows fields) decode := by
  intro v w h
  rw [hdecode, hdecode]
  cases h with
  | same => rfl
  | object h => exact hread _ _ fun _ _ hname => h.lookup hname
  | @array items more h =>
    rw [Fields.ofRecord?, Fields.ofRecord?, ← h.length_eq]
    split
    · exact hread _ _ fun _ _ hname => ItemsGrow.lookup fields h hname
    · rfl

end Decode

end RolloutTree
