import ChangeTracking.Proofs.Ownership
import Mathlib.Algebra.GroupWithZero.Nat

namespace ChangeTracking

namespace Tracker
variable {κ : Type} (tracker : Tracker κ) (id : SessionId)

def liveRegistrars : List RegistrarId :=
  ((List.range tracker.registrars.size).map RegistrarId.mk).filter tracker.isLive

/-- The number of subscriptions on behalf of a session in the tables of live registrars. -/
def tableSubscriptions : Nat :=
  (tracker.liveRegistrars.map fun registrar =>
    (tracker.table registrar).subscriptions.countP (·.perceiver.isOf id)).sum

/-- The tokens that a session holds against live registrars. -/
def heldTokens : List Token :=
  ((tracker.session id).installed.filter fun entry => tracker.isLive entry.registrar).flatMap
    (·.tokens.toList)

/-- Whether a token names a subscription that is in the table of its registrar. -/
def names (token : Token) : Bool := ((tracker.table token.registrar).find? token.id).isSome

/-- The tokens that a session holds against live registrars for subscriptions that are not there. -/
def staleTokens : List Token := (tracker.heldTokens id).filter fun token => !tracker.names token

/-- The tokens of the subscriptions on behalf of a session in the tables of live registrars. -/
def tableTokens : List Token :=
  tracker.liveRegistrars.flatMap fun registrar =>
    ((tracker.table registrar).subscriptions.filter (·.perceiver.isOf id)).map
      fun subscription => ⟨registrar, subscription.id⟩

variable {tracker id}

theorem length_tableTokens :
    (tracker.tableTokens id).length = tracker.tableSubscriptions id := by
  rw [tableTokens, List.length_flatMap, tableSubscriptions]
  congr 2
  funext registrar
  rw [List.length_map, List.countP_eq_length_filter]

private theorem length_heldTokens :
    (tracker.heldTokens id).length = tracker.sessionSubscriptions id := by
  rw [heldTokens, sessionSubscriptions]
  generalize (tracker.session id).installed = installed
  induction installed with
  | nil => rfl
  | cons entry rest ih =>
    rw [countTokens, tokenCount, ← ih, List.filter_cons]
    split <;> simp

theorem countTokens_congr {before after : Tracker κ}
    (live : ∀ registrar, after.isLive registrar = before.isLive registrar)
    (installed : List Installation) : after.countTokens installed = before.countTokens installed := by
  induction installed with
  | nil => rfl
  | cons entry rest ih => rw [countTokens, countTokens, tokenCount, tokenCount, live, ih]

theorem mem_liveRegistrars_iff {registrar : RegistrarId} :
    registrar ∈ tracker.liveRegistrars ↔ tracker.isLive registrar = true := by
  rw [liveRegistrars, List.mem_filter, and_iff_right_iff_imp]
  intro live
  exact List.mem_map.mpr ⟨registrar.index, List.mem_range.mpr (index_lt_of_isLive live), rfl⟩

private theorem liveRegistrars_nodup : tracker.liveRegistrars.Nodup := by
  refine (List.nodup_range.map ?_).filter _
  exact fun left right same => congrArg RegistrarId.index same

namespace InStep

theorem mem_heldTokens_iff (inStep : tracker.InStep) {token : Token} :
    token ∈ tracker.heldTokens id ↔ tracker.isLive token.registrar = true ∧
      ∃ phase, (tracker.session id).Holds token.registrar phase token.id := by
  simp only [heldTokens, List.mem_flatMap, List.mem_filter, PerPhase.mem_toList_iff]
  constructor
  · rintro ⟨entry, ⟨member, live⟩, phase, found⟩
    have own := (inStep.sessions id).own entry member phase token found
    exact ⟨own ▸ live, phase, entry, member, own.symm, found⟩
  · rintro ⟨live, phase, entry, member, own, found⟩
    exact ⟨entry, ⟨member, own ▸ live⟩, phase, found⟩

theorem names_iff (inStep : tracker.InStep) {token : Token} :
    tracker.names token = true ↔
      ∃ subscription ∈ (tracker.table token.registrar).subscriptions,
        subscription.id = token.id := by
  rw [names, Option.isSome_iff_exists]
  exact exists_congr fun subscription => (inStep.sound.tables token.registrar).find?_eq_some_iff

private theorem mem_tableTokens_iff (inStep : tracker.InStep) {token : Token} :
    token ∈ tracker.tableTokens id ↔
      token ∈ tracker.heldTokens id ∧ tracker.names token = true := by
  rw [inStep.mem_heldTokens_iff, inStep.names_iff]
  simp only [tableTokens, List.mem_flatMap, List.mem_map, List.mem_filter, mem_liveRegistrars_iff]
  constructor
  · rintro ⟨registrar, live, subscription, ⟨member, mine⟩, rfl⟩
    obtain ⟨phase, mine⟩ := Perceiver.isOf_iff.mp mine
    exact ⟨⟨live, phase, (inStep.holds_iff member).mpr mine⟩, subscription, member, rfl⟩
  · rintro ⟨⟨live, phase, holds⟩, subscription, member, same⟩
    rw [← same, inStep.holds_iff member] at holds
    exact ⟨token.registrar, live, subscription, ⟨member, Perceiver.isOf_iff.mpr ⟨phase, holds⟩⟩,
      by rw [same]⟩

theorem tableTokens_nodup (inStep : tracker.InStep) : (tracker.tableTokens id).Nodup := by
  refine List.nodup_flatMap.mpr ⟨fun registrar _ => ?_, ?_⟩
  · have ids := (inStep.sound.tables registrar).ids_nodup
    have mine := ids.sublist ((List.filter_sublist (p := (·.perceiver.isOf id))).map _)
    refine List.Nodup.of_map Token.id ?_
    rwa [List.map_map]
  · refine liveRegistrars_nodup.imp fun {left right} different token first second => ?_
    obtain ⟨_, _, rfl⟩ := List.mem_map.mp first
    obtain ⟨_, _, same⟩ := List.mem_map.mp second
    exact different (congrArg Token.registrar same).symm

private theorem phase_unique (inStep : tracker.InStep) {registrar : RegistrarId} {number : Nat}
    (named : tracker.names ⟨registrar, number⟩ = true) {left right : Phase}
    (first : (tracker.session id).Holds registrar left number)
    (second : (tracker.session id).Holds registrar right number) : left = right := by
  obtain ⟨subscription, member, same⟩ := inStep.names_iff.mp named
  have one := (inStep.issued id registrar left number first).2 subscription member same
  have other := (inStep.issued id registrar right number second).2 subscription member same
  rw [one] at other
  cases other
  rfl

private theorem nodup_filter_toList {α : Type} {slots : PerPhase α} {wanted : α → Bool}
    (apart : ∀ value, wanted value = true → slots.find? .willChange = some value →
      slots.find? .didChange ≠ some value) : (slots.toList.filter wanted).Nodup := by
  obtain ⟨will, did⟩ := slots
  cases will with
  | none => exact ((Option.toList_nodup did).filter _)
  | some first =>
    cases did with
    | none => exact (List.nodup_singleton first).filter _
    | some second =>
      by_cases same : first = second
      · subst same
        have unwanted : wanted first = false := by
          by_contra wanted
          exact apart first (by simpa using wanted) rfl rfl
        simp [PerPhase.toList, unwanted]
      · have pair : [first, second].Nodup := by simpa using same
        exact pair.filter _

private theorem named_nodup (inStep : tracker.InStep) :
    ((tracker.heldTokens id).filter tracker.names).Nodup := by
  have sound := inStep.sessions id
  rw [heldTokens, List.filter_flatMap]
  refine List.nodup_flatMap.mpr ⟨fun entry member => ?_, ?_⟩
  · have held {phase : Phase} {token : Token} (found : entry.tokens.find? phase = some token) :
        (tracker.session id).Holds token.registrar phase token.id := by
      have own := sound.own entry (List.mem_of_mem_filter member) phase token found
      exact ⟨entry, List.mem_of_mem_filter member, own.symm, found⟩
    refine nodup_filter_toList fun token named will did => ?_
    cases inStep.phase_unique named (held will) (held did)
  · refine (sound.apart.filter _).imp_of_mem fun {left right} leftMember rightMember apart => ?_
    intro token first second
    obtain ⟨_, found⟩ := PerPhase.mem_toList_iff.mp (List.mem_of_mem_filter first)
    obtain ⟨_, again⟩ := PerPhase.mem_toList_iff.mp (List.mem_of_mem_filter second)
    have here := sound.own left (List.mem_of_mem_filter leftMember) _ token found
    have there := sound.own right (List.mem_of_mem_filter rightMember) _ token again
    exact apart (here.symm.trans there)

/-- A session counts its subscriptions in the tables and the tokens that name nothing there. -/
theorem sessionSubscriptions_eq (inStep : tracker.InStep) (id : SessionId) :
    tracker.sessionSubscriptions id =
      tracker.tableSubscriptions id + (tracker.staleTokens id).length := by
  have named : ((tracker.heldTokens id).filter tracker.names).Perm (tracker.tableTokens id) := by
    refine (List.perm_ext_iff_of_nodup inStep.named_nodup inStep.tableTokens_nodup).mpr ?_
    intro token
    rw [List.mem_filter, inStep.mem_tableTokens_iff]
  rw [← length_heldTokens, ← length_tableTokens, ← named.length_eq, staleTokens]
  exact List.length_eq_length_filter_add _

end InStep

end Tracker
end ChangeTracking
