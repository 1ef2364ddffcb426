import ChangeTracking.Proofs.TrackerTables

namespace ChangeTracking

namespace PerPhase
variable {α : Type}

theorem mem_toList_iff {slots : PerPhase α} {value : α} :
    value ∈ slots.toList ↔ ∃ phase, slots.find? phase = some value := by
  constructor
  · intro member
    rcases List.mem_append.mp member with will | did
    · exact ⟨.willChange, Option.mem_toList.mp will⟩
    · exact ⟨.didChange, Option.mem_toList.mp did⟩
  · rintro ⟨phase, found⟩
    cases phase with
    | willChange => exact List.mem_append_left _ (Option.mem_toList.mpr found)
    | didChange => exact List.mem_append_right _ (Option.mem_toList.mpr found)

theorem find?_only (slots : PerPhase α) (phase other : Phase) :
    (slots.only phase).find? other = if other = phase then slots.find? other else none := by
  cases phase <;> cases other <;> rfl

end PerPhase

namespace Tracker
variable {κ : Type}

/-- The subscription of a session for one phase of changes to what it read from a registrar. -/
def ownSubscription (id : SessionId) (read : AccessEntry) (phase : Phase) (number : Nat) :
    Subscription κ :=
  ⟨number, phase, read.keys, .session id read.registrar phase⟩

/-- The subscriptions of a session for what it read from one registrar, numbered on from the
next number there. -/
def ownSubscriptions (id : SessionId) (wanted : PerPhase κ) (read : AccessEntry) (next : Nat) :
    List (Subscription κ) :=
  (wanted.willChange.toList.map fun _ => ownSubscription id read .willChange next) ++
    wanted.didChange.toList.map fun _ =>
      ownSubscription id read .didChange (next + wanted.willChange.toList.length)

def ownTokens (wanted : PerPhase κ) (registrar : RegistrarId) (next : Nat) : PerPhase Token where
  willChange := wanted.willChange.map fun _ => ⟨registrar, next⟩
  didChange := wanted.didChange.map fun _ => ⟨registrar, next + wanted.willChange.toList.length⟩

theorem of_mem_ownSubscriptions {id : SessionId} {wanted : PerPhase κ} {read : AccessEntry}
    {next : Nat} {subscription : Subscription κ}
    (member : subscription ∈ ownSubscriptions id wanted read next) :
    subscription.keys = read.keys ∧
      subscription.perceiver = .session id read.registrar subscription.phase ∧
      (wanted.find? subscription.phase).isSome = true ∧
      (ownTokens wanted read.registrar next).find? subscription.phase =
        some ⟨read.registrar, subscription.id⟩ := by
  obtain ⟨will, did⟩ := wanted
  cases will <;> cases did <;> simp [ownSubscriptions, ownSubscription] at member
  case none.some => subst member; simp [ownTokens, PerPhase.find?]
  case some.none => subst member; simp [ownTokens, PerPhase.find?]
  case some.some => rcases member with rfl | rfl <;> simp [ownTokens, PerPhase.find?]

theorem of_find?_ownTokens (id : SessionId) {wanted : PerPhase κ} {read : AccessEntry}
    {next : Nat} {phase : Phase} {token : Token}
    (found : (ownTokens wanted read.registrar next).find? phase = some token) :
    token.registrar = read.registrar ∧ next ≤ token.id ∧
      token.id < next + (ownSubscriptions id wanted read next).length ∧
      ownSubscription id read phase token.id ∈ ownSubscriptions id wanted read next := by
  obtain ⟨will, did⟩ := wanted
  cases will <;> cases did <;> cases phase <;>
    simp [ownTokens, PerPhase.find?] at found <;> subst found <;> simp [ownSubscriptions]

theorem find?_ownTokens_isSome (wanted : PerPhase κ) (registrar : RegistrarId) (next : Nat)
    (phase : Phase) :
    ((ownTokens wanted registrar next).find? phase).isSome = (wanted.find? phase).isSome := by
  cases phase <;> simp [ownTokens, PerPhase.find?]

theorem subscribe_added {tracker : Tracker κ} (sound : tracker.Sound) (id : SessionId)
    (wanted : PerPhase κ) {read : AccessEntry} (live : tracker.isLive read.registrar = true)
    (phase : Phase) :
    (tracker.subscribe id read wanted phase).1 =
        (wanted.find? phase).map (fun _ =>
          ⟨read.registrar, (tracker.table read.registrar).nextId⟩) ∧
      Added (fun other => if other = read.registrar
          then (wanted.find? phase).toList.map fun _ =>
            ownSubscription id read phase (tracker.table other).nextId
          else [])
        tracker (tracker.subscribe id read wanted phase).2 := by
  unfold subscribe
  split
  · rename_i unwanted
    exact ⟨by simp [unwanted], (Added.refl sound).congr fun other => by simp [unwanted]⟩
  · rename_i callback found
    refine ⟨by simp [found, register], (register_added sound live read.keys phase _).congr ?_⟩
    intro other
    by_cases same : other = read.registrar
    · simp [same, found, ownSubscription]
    · simp [same]

theorem installEntry_added {tracker : Tracker κ} (sound : tracker.Sound) (id : SessionId)
    (wanted : PerPhase κ) {read : AccessEntry} (live : tracker.isLive read.registrar = true) :
    (tracker.installEntry id wanted read).1 =
        ⟨read.registrar, ownTokens wanted read.registrar (tracker.table read.registrar).nextId⟩ ∧
      Added (fun other => if other = read.registrar
          then ownSubscriptions id wanted read (tracker.table other).nextId else [])
        tracker (tracker.installEntry id wanted read).2 := by
  obtain ⟨will, first⟩ := subscribe_added sound id wanted live .willChange
  have live : (tracker.subscribe id read wanted .willChange).2.isLive read.registrar = true := by
    rw [first.isLive, live]
  obtain ⟨did, second⟩ := subscribe_added first.sound id wanted live .didChange
  have next := first.nextId read.registrar
  rw [if_pos rfl, List.length_map] at next
  constructor
  · rw [next] at did
    simp only [installEntry, will, did]
    rfl
  · apply (first.trans second).congr
    intro other
    by_cases same : other = read.registrar
    · subst same
      rw [if_pos rfl, if_pos rfl, if_pos rfl, next]
      rfl
    · simp [same]

/-- Over entries of different registrars, a session gets its subscriptions at each of them that
is alive, and at no other. -/
theorem installEntries_added {tracker : Tracker κ} (sound : tracker.Sound) (id : SessionId)
    (wanted : PerPhase κ) {reads : List AccessEntry}
    (apart : reads.Pairwise fun left right => left.registrar ≠ right.registrar) :
    (tracker.installEntries id wanted reads).1 =
        (reads.filter fun read => tracker.isLive read.registrar).map (fun read =>
          ⟨read.registrar,
            ownTokens wanted read.registrar (tracker.table read.registrar).nextId⟩) ∧
      Added (fun other =>
          (reads.filter fun read => tracker.isLive other ∧ read.registrar = other).flatMap
            fun read => ownSubscriptions id wanted read (tracker.table other).nextId)
        tracker (tracker.installEntries id wanted reads).2 := by
  induction reads generalizing tracker with
  | nil => exact ⟨rfl, (Added.refl sound).congr fun _ => rfl⟩
  | cons read rest ih =>
    obtain ⟨different, apart⟩ := List.pairwise_cons.mp apart
    unfold installEntries
    split
    · rename_i live
      obtain ⟨entry, first⟩ := installEntry_added sound id wanted live
      obtain ⟨entries, second⟩ := ih first.sound apart
      constructor
      · simp only [entry, entries, List.filter_cons, live, if_true, List.map_cons]
        congr 1
        have same : rest.filter (fun other =>
            (tracker.installEntry id wanted read).2.isLive other.registrar) =
            rest.filter fun other => tracker.isLive other.registrar :=
          List.filter_congr fun other _ => first.isLive _
        rw [same]
        apply List.map_congr_left
        intro other member
        have other := different other (List.mem_of_mem_filter member)
        rw [first.nextId, if_neg (Ne.symm other)]
        rfl
      · apply (first.trans second).congr
        intro other
        rw [first.isLive, first.nextId]
        by_cases same : other = read.registrar
        · have nobody : rest.filter (fun entry =>
              tracker.isLive other ∧ entry.registrar = other) = [] := by
            apply List.filter_eq_nil_iff.mpr
            intro entry member
            simp [same, Ne.symm (different entry member)]
          rw [List.filter_cons, if_pos (by simp [same, live]), nobody]
          simp [same]
        · simp [same, Ne.symm same]
    · rename_i gone
      obtain ⟨entries, added⟩ := ih sound apart
      constructor
      · rw [entries, List.filter_cons, if_neg gone]
      · apply added.congr
        intro other
        rw [List.filter_cons, if_neg]
        simp only [decide_eq_true_eq, not_and]
        rintro live rfl
        exact gone live

end Tracker
end ChangeTracking
