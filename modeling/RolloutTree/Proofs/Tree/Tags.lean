import Mathlib.Data.List.Nodup
import RolloutTree.Tree.Tags

/-!
# Tags do not contradict each other

The tags of a replica set come from up to five places of a rollout, of which each may be missing,
out of date or the same as another. They agree nevertheless, for two reasons that work together: the
parts of a rollout have no canary that is the stable revision, and a revision that is active is not
tagged as the preview.

Nothing is said about whether a replica set has the hash, nor how many have it: replica sets with
the same hash have the same tags.

## Main definitions

* `Parts.Consistent`: what the parts of every rollout have in common.
* `Rollout.HasTag`: a tag is shown for a hash.
* `Rollout.HasServices`: two services alternate in the canary strategy.

## Main results

* `Parts.consistent_ofRollout`: the parts of a rollout are consistent.
* `Rollout.hasTag_stable_iff`, `Rollout.hasTag_canary_iff`, `Rollout.hasTag_active_iff`,
  `Rollout.hasTag_preview_iff`, `Rollout.hasTag_service_iff`: which hashes have a tag.
* `Rollout.tags_agree`: which tags exclude each other, and which belong together.
-/

namespace RolloutTree

/-- Different tags are shown as different words. -/
theorem Tag.text_injective : Function.Injective Tag.text := by
  intro a b h
  cases a <;> cases b <;> first | rfl | exact absurd h (by decide)

/-! ### The tags of parts -/

namespace Parts

variable {p : Parts} {hash : String} {tag : Tag}

/-- The tags of a hash come from the parts that have the hash. A revision that is both active and
the preview has no tag for being the preview. -/
theorem mem_tagsOf : tag ∈ p.tagsOf hash ↔
    p.stable = some hash ∧ (tag = .stable ∨ ∃ services, p.services = some services ∧
        services.1 = tag) ∨
      p.canary = some hash ∧ (tag = .canary ∨ ∃ services, p.services = some services ∧
        services.2 = tag) ∨
      p.active = some hash ∧ tag = .active ∨
      (p.preview = some hash ∧ p.active ≠ some hash) ∧ tag = .preview := by
  simp [tagsOf]

/-- What the parts of every rollout have in common: the canary is not the stable revision, and if
two services alternate, one of them is `ping` and the other is `pong`. -/
structure Consistent (p : Parts) : Prop where
  canary_ne (hash : String) : p.stable = some hash → p.canary ≠ some hash
  services : p.services = none ∨ p.services = some (.ping, .pong) ∨ p.services = some (.pong, .ping)

namespace Consistent

/-- Consistent parts give no tag twice. -/
theorem nodup_tagsOf (h : p.Consistent) (hash : String) : (p.tagsOf hash).Nodup := by
  have hne := h.canary_ne hash
  by_cases hstable : p.stable = some hash <;> by_cases hcanary : p.canary = some hash
  · exact absurd hcanary (hne hstable)
  all_goals
    by_cases hactive : p.active = some hash <;> by_cases hpreview : p.preview = some hash <;>
      rcases h.services with hs | hs | hs <;> simp [tagsOf, *]

/-- A tag that is not the name of a service is there for a part of its own. -/
theorem mem_tagsOf_iff_of_part (h : p.Consistent) (hping : tag ≠ .ping) (hpong : tag ≠ .pong) :
    tag ∈ p.tagsOf hash ↔
      p.stable = some hash ∧ tag = .stable ∨ p.canary = some hash ∧ tag = .canary ∨
        p.active = some hash ∧ tag = .active ∨
        (p.preview = some hash ∧ p.active ≠ some hash) ∧ tag = .preview := by
  rw [mem_tagsOf]
  rcases h.services with hs | hs | hs <;> simp [hs, hping.symm, hpong.symm]

end Consistent

theorem servicesOf_cases (r : Rollout) : servicesOf r = none ∨ servicesOf r = some (.ping, .pong) ∨
    servicesOf r = some (.pong, .ping) := by
  rw [servicesOf]
  split
  · split <;> simp
  · simp

/-! ### The parts of a rollout -/

variable {r : Rollout}

theorem stable_ofRollout : (ofRollout r).stable = r.status.stableHash := by
  rw [ofRollout]
  split <;> rfl

theorem canary_ofRollout_eq_some_iff : (ofRollout r).canary = some hash ↔
    r.isBlueGreen = false ∧ r.status.currentHash = some hash ∧
      r.status.stableHash ≠ some hash := by
  rw [ofRollout]
  cases r.isBlueGreen with
  | true => simp
  | false =>
    by_cases h : r.status.currentHash = r.status.stableHash
    · simp [h]
    · simp only [h, Bool.false_eq_true, if_false, true_and]
      exact ⟨fun hc => ⟨hc, fun hs => h (hc.trans hs.symm)⟩, And.left⟩

theorem active_ofRollout_eq_some_iff : (ofRollout r).active = some hash ↔
    r.isBlueGreen = true ∧ r.status.blueGreen.activeSelector = some hash := by
  rw [ofRollout]
  cases r.isBlueGreen <;> simp

theorem preview_ofRollout_eq_some_iff : (ofRollout r).preview = some hash ↔
    r.isBlueGreen = true ∧ r.status.blueGreen.previewSelector = some hash := by
  rw [ofRollout]
  cases r.isBlueGreen <;> simp

theorem services_ofRollout_eq_some_iff {services : Tag × Tag} :
    (ofRollout r).services = some services ↔
      r.isBlueGreen = false ∧ servicesOf r = some services := by
  rw [ofRollout]
  cases r.isBlueGreen <;> simp

/-- The parts of a rollout are consistent. -/
theorem consistent_ofRollout (r : Rollout) : (ofRollout r).Consistent where
  canary_ne hash hstable hcanary := by
    rw [stable_ofRollout] at hstable
    exact (canary_ofRollout_eq_some_iff.mp hcanary).2.2 hstable
  services := by
    rw [ofRollout]
    split
    · exact .inl rfl
    · exact servicesOf_cases r

end Parts

/-! ### The tags of a rollout -/

namespace Rollout

variable {r : Rollout} {hash : String}

/-- The tag is shown for the replica sets with the hash. -/
def HasTag (r : Rollout) (tag : Tag) (hash : String) : Prop :=
  tag.text ∈ ((Parts.ofRollout r).tagsOf hash).map Tag.text

/-- The canary strategy has a section for two services between which it alternates. -/
def HasServices (r : Rollout) : Prop :=
  ∃ canary services, r.spec.strategy.canary = some canary ∧ canary.pingPong = some services

theorem hasTag_iff {tag : Tag} : r.HasTag tag hash ↔ tag ∈ (Parts.ofRollout r).tagsOf hash :=
  List.mem_map_of_injective Tag.text_injective

theorem hasServices_iff : r.HasServices ↔ Parts.servicesOf r ≠ none := by
  rw [HasServices, Parts.servicesOf]
  rcases r.spec.strategy.canary with _ | ⟨_ | services⟩
  · simp
  · simp
  · refine iff_of_true ⟨_, services, rfl, rfl⟩ ?_
    dsimp only
    split <;> exact Option.some_ne_none _

/-- A tag that is not the name of a service is there for one part of the rollout. -/
theorem hasTag_iff_of_part {tag : Tag} (hping : tag ≠ .ping) (hpong : tag ≠ .pong) :
    r.HasTag tag hash ↔
      r.status.stableHash = some hash ∧ tag = .stable ∨
        (r.isBlueGreen = false ∧ r.status.currentHash = some hash ∧
          r.status.stableHash ≠ some hash) ∧ tag = .canary ∨
        (r.isBlueGreen = true ∧ r.status.blueGreen.activeSelector = some hash) ∧ tag = .active ∨
        (r.isBlueGreen = true ∧ r.status.blueGreen.previewSelector = some hash ∧
          r.status.blueGreen.activeSelector ≠ some hash) ∧ tag = .preview := by
  have hpreview : ((Parts.ofRollout r).preview = some hash ∧
      (Parts.ofRollout r).active ≠ some hash) ↔ r.isBlueGreen = true ∧
        r.status.blueGreen.previewSelector = some hash ∧
        r.status.blueGreen.activeSelector ≠ some hash := by
    rw [Ne, Parts.preview_ofRollout_eq_some_iff, Parts.active_ofRollout_eq_some_iff]
    tauto
  rw [hasTag_iff, (Parts.consistent_ofRollout r).mem_tagsOf_iff_of_part hping hpong, hpreview,
    Parts.stable_ofRollout, Parts.canary_ofRollout_eq_some_iff, Parts.active_ofRollout_eq_some_iff]

theorem hasTag_stable_iff : r.HasTag .stable hash ↔ r.status.stableHash = some hash := by
  simp [hasTag_iff_of_part]

theorem hasTag_canary_iff : r.HasTag .canary hash ↔
    r.isBlueGreen = false ∧ r.status.currentHash = some hash ∧
      r.status.stableHash ≠ some hash := by
  simp [hasTag_iff_of_part]

theorem hasTag_active_iff : r.HasTag .active hash ↔
    r.isBlueGreen = true ∧ r.status.blueGreen.activeSelector = some hash := by
  simp [hasTag_iff_of_part]

theorem hasTag_preview_iff : r.HasTag .preview hash ↔
    r.isBlueGreen = true ∧ r.status.blueGreen.previewSelector = some hash ∧
      r.status.blueGreen.activeSelector ≠ some hash := by
  simp [hasTag_iff_of_part]

/-- Of two services, the first goes to the stable revision and the second to the canary. -/
theorem hasTag_service_iff {service : Tag} (h : service = .ping ∨ service = .pong) :
    r.HasTag service hash ↔ r.isBlueGreen = false ∧ ∃ services,
      Parts.servicesOf r = some services ∧
        (services.1 = service ∧ r.HasTag .stable hash ∨
          services.2 = service ∧ r.HasTag .canary hash) := by
  have hpart : service ≠ .stable ∧ service ≠ .canary ∧ service ≠ .active ∧ service ≠ .preview := by
    rcases h with rfl | rfl <;> decide
  rw [hasTag_iff, Parts.mem_tagsOf, hasTag_stable_iff, hasTag_canary_iff,
    Parts.canary_ofRollout_eq_some_iff, Parts.stable_ofRollout]
  simp only [Parts.services_ofRollout_eq_some_iff, hpart, false_or, and_false, or_false]
  constructor
  · rintro (⟨hstable, services, ⟨hstrategy, hservices⟩, heq⟩ |
      ⟨hcanary, services, ⟨hstrategy, hservices⟩, heq⟩)
    · exact ⟨hstrategy, services, hservices, .inl ⟨heq, hstable⟩⟩
    · exact ⟨hstrategy, services, hservices, .inr ⟨heq, hcanary⟩⟩
  · rintro ⟨hstrategy, services, hservices, ⟨heq, hstable⟩ | ⟨heq, hcanary⟩⟩
    · exact .inl ⟨hstable, services, ⟨hstrategy, hservices⟩, heq⟩
    · exact .inr ⟨hcanary, services, ⟨hstrategy, hservices⟩, heq⟩

/-- No hash has a service, or the stable revision has one of two services and the canary has the
other. -/
theorem services_cases (r : Rollout) :
    ¬(r.isBlueGreen = false ∧ r.HasServices) ∧
        (∀ hash, ¬r.HasTag .ping hash ∧ ¬r.HasTag .pong hash) ∨
      (r.isBlueGreen = false ∧ r.HasServices) ∧
        ((∀ hash, (r.HasTag .ping hash ↔ r.HasTag .stable hash) ∧
            (r.HasTag .pong hash ↔ r.HasTag .canary hash)) ∨
          ∀ hash, (r.HasTag .ping hash ↔ r.HasTag .canary hash) ∧
            (r.HasTag .pong hash ↔ r.HasTag .stable hash)) := by
  rw [hasServices_iff]
  cases hstrategy : r.isBlueGreen with
  | true => simp [hasTag_service_iff, hstrategy]
  | false => rcases Parts.servicesOf_cases r with hs | hs | hs <;>
      simp [hasTag_service_iff, hstrategy, hs]

theorem not_stable_and_canary (r : Rollout) (hash : String) :
    ¬(r.HasTag .stable hash ∧ r.HasTag .canary hash) := by
  rintro ⟨hstable, hcanary⟩
  exact (hasTag_canary_iff.mp hcanary).2.2 (hasTag_stable_iff.mp hstable)

theorem not_active_and_preview (r : Rollout) (hash : String) :
    ¬(r.HasTag .active hash ∧ r.HasTag .preview hash) := by
  rintro ⟨hactive, hpreview⟩
  exact (hasTag_preview_iff.mp hpreview).2.2 (hasTag_active_iff.mp hactive).2

/-- A hash with both services would be stable and the canary. -/
theorem not_ping_and_pong (r : Rollout) (hash : String) :
    ¬(r.HasTag .ping hash ∧ r.HasTag .pong hash) := by
  have hne := r.not_stable_and_canary hash
  rintro ⟨hping, hpong⟩
  rcases r.services_cases with ⟨-, hnone⟩ | ⟨-, h | h⟩
  · exact (hnone hash).1 hping
  · exact hne ⟨(h hash).1.mp hping, (h hash).2.mp hpong⟩
  · exact hne ⟨(h hash).2.mp hpong, (h hash).1.mp hping⟩

/-- The hashes with a service are the stable one and the canary, if there are services at all. -/
theorem hasTag_ping_or_pong_iff (r : Rollout) (hash : String) :
    r.HasTag .ping hash ∨ r.HasTag .pong hash ↔
      r.isBlueGreen = false ∧ r.HasServices ∧ (r.HasTag .stable hash ∨ r.HasTag .canary hash) := by
  rw [← and_assoc]
  rcases r.services_cases with ⟨hnone, h⟩ | ⟨hsome, h | h⟩
  · exact iff_of_false (not_or_intro (h hash).1 (h hash).2) fun hall => hnone hall.1
  · rw [(h hash).1, (h hash).2, and_iff_right hsome]
  · rw [(h hash).1, (h hash).2, and_iff_right hsome, or_comm]

/-- A stable hash and a canary have different services. -/
theorem hasTag_service_of_stable_of_canary (hservices : r.HasServices) {stable canary : String}
    (hstable : r.HasTag .stable stable) (hcanary : r.HasTag .canary canary) :
    r.HasTag .ping stable ∧ r.HasTag .pong canary ∨
      r.HasTag .pong stable ∧ r.HasTag .ping canary := by
  have hstrategy : r.isBlueGreen = false := (hasTag_canary_iff.mp hcanary).1
  rcases r.services_cases with ⟨hnone, -⟩ | ⟨-, h | h⟩
  · exact absurd ⟨hstrategy, hservices⟩ hnone
  · exact .inl ⟨(h stable).1.mpr hstable, (h canary).2.mpr hcanary⟩
  · exact .inr ⟨(h stable).2.mpr hstable, (h canary).1.mpr hcanary⟩

/-- A tag that is not the name of a service is there for one hash at most. -/
theorem eq_of_hasTag {tag : Tag} (hping : tag ≠ .ping) (hpong : tag ≠ .pong) {hash other : String}
    (h : r.HasTag tag hash) (h' : r.HasTag tag other) : hash = other := by
  cases tag with
  | stable => exact Option.some.inj ((hasTag_stable_iff.mp h).symm.trans (hasTag_stable_iff.mp h'))
  | canary =>
    exact Option.some.inj ((hasTag_canary_iff.mp h).2.1.symm.trans (hasTag_canary_iff.mp h').2.1)
  | active =>
    exact Option.some.inj ((hasTag_active_iff.mp h).2.symm.trans (hasTag_active_iff.mp h').2)
  | preview =>
    exact Option.some.inj ((hasTag_preview_iff.mp h).2.1.symm.trans (hasTag_preview_iff.mp h').2.1)
  | ping => exact absurd rfl hping
  | pong => exact absurd rfl hpong

/-- **The tags of a rollout agree.** For every rollout and all hashes:

* No tag is shown twice for a hash.
* No hash is stable and the canary, none is active and the preview, and none has both services.
* With a blue-green strategy no hash is the canary or has a service. Without one none is active or
  the preview.
* A hash has a service exactly if there is no blue-green strategy, the canary strategy has a section
  for two services, and the hash is stable or the canary. With such a section a stable hash and a
  canary have different services.
* Each of the four parts is played by one hash at most. -/
theorem tags_agree (r : Rollout) :
    (∀ hash, (((Parts.ofRollout r).tagsOf hash).map Tag.text).Nodup) ∧
    (∀ hash, ¬(r.HasTag .stable hash ∧ r.HasTag .canary hash) ∧
      ¬(r.HasTag .active hash ∧ r.HasTag .preview hash) ∧
      ¬(r.HasTag .ping hash ∧ r.HasTag .pong hash)) ∧
    (r.isBlueGreen = true → ∀ hash, ∀ tag ∈ [Tag.canary, .ping, .pong], ¬r.HasTag tag hash) ∧
    (r.isBlueGreen = false → ∀ hash, ∀ tag ∈ [Tag.active, .preview], ¬r.HasTag tag hash) ∧
    (∀ hash, r.HasTag .ping hash ∨ r.HasTag .pong hash ↔
      r.isBlueGreen = false ∧ r.HasServices ∧ (r.HasTag .stable hash ∨ r.HasTag .canary hash)) ∧
    (r.HasServices → ∀ stable canary, r.HasTag .stable stable → r.HasTag .canary canary →
      r.HasTag .ping stable ∧ r.HasTag .pong canary ∨
        r.HasTag .pong stable ∧ r.HasTag .ping canary) ∧
    ∀ tag ∈ [Tag.stable, .canary, .active, .preview], ∀ hash other,
      r.HasTag tag hash → r.HasTag tag other → hash = other := by
  refine ⟨fun hash => ?_, fun hash => ⟨r.not_stable_and_canary hash, r.not_active_and_preview hash,
    r.not_ping_and_pong hash⟩, fun hstrategy hash => ?_, fun hstrategy hash => ?_,
    r.hasTag_ping_or_pong_iff, fun h _ _ => hasTag_service_of_stable_of_canary h,
    fun tag htag _ _ => ?_⟩
  · exact ((Parts.consistent_ofRollout r).nodup_tagsOf hash).map Tag.text_injective
  · simp [hasTag_canary_iff, hasTag_service_iff, hstrategy]
  · simp [hasTag_active_iff, hasTag_preview_iff, hstrategy]
  · have hpart : tag ≠ .ping ∧ tag ≠ .pong := by
      constructor <;> rintro rfl <;> simp at htag
    exact eq_of_hasTag hpart.1 hpart.2

end Rollout

end RolloutTree
