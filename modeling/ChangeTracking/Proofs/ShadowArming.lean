import ChangeTracking.Proofs.ShadowTables

namespace ChangeTracking
variable {n : Nat} {κ : Type}

def readList (reads : List (Fin n × Key)) (list : AccessList) : AccessList :=
  reads.foldl (fun list read => list.add ⟨read.1⟩ read.2) list

theorem contains_readList {reads : List (Fin n × Key)} {list : AccessList} {id : RegistrarId}
    {key : Key} : (readList reads list).contains id key = true ↔
      (∃ registrar : Fin n, id = ⟨registrar⟩ ∧ (registrar, key) ∈ reads) ∨
        list.contains id key = true := by
  induction reads generalizing list with
  | nil => simp [readList]
  | cons read rest ih =>
    obtain ⟨first, label⟩ := read
    rw [readList, List.foldl_cons, ← readList, ih, AccessList.contains_add]
    constructor
    · rintro (⟨registrar, rfl, member⟩ | ⟨rfl, rfl⟩ | old)
      · exact .inl ⟨registrar, rfl, List.mem_cons_of_mem _ member⟩
      · exact .inl ⟨first, rfl, List.mem_cons_self⟩
      · exact .inr old
    · rintro (⟨registrar, rfl, member⟩ | old)
      · rcases List.mem_cons.mp member with same | member
        · cases same
          exact .inr (.inl ⟨rfl, rfl⟩)
        · exact .inl ⟨registrar, rfl, member⟩
      · exact .inr (.inr old)

theorem mem_registrars_readList {reads : List (Fin n × Key)} {list : AccessList}
    {id : RegistrarId} : id ∈ (readList reads list).registrars ↔
      (∃ registrar : Fin n, id = ⟨registrar⟩ ∧ registrar ∈ reads.map (·.1)) ∨
        id ∈ list.registrars := by
  induction reads generalizing list with
  | nil => simp [readList]
  | cons read rest ih =>
    rw [readList, List.foldl_cons, ← readList, ih, AccessList.mem_registrars_add]
    constructor
    · rintro (⟨registrar, rfl, member⟩ | rfl | old)
      · exact .inl ⟨registrar, rfl, List.mem_cons_of_mem _ member⟩
      · exact .inl ⟨read.1, rfl, List.mem_cons_self⟩
      · exact .inr old
    · rintro (⟨registrar, rfl, member⟩ | old)
      · rcases List.mem_cons.mp member with rfl | member
        · exact .inr (.inl rfl)
        · exact .inl ⟨registrar, rfl, member⟩
      · exact .inr (.inr old)

section Reads
variable {reads : List (Fin n × Key)}

theorem contains_reads {registrar : Fin n} {key : Key} :
    (readList reads ∅).contains ⟨registrar⟩ key = true ↔ (registrar, key) ∈ reads := by
  rw [contains_readList]
  constructor
  · rintro (⟨other, equal, member⟩ | absent)
    · rwa [Fin.ext (congrArg RegistrarId.index equal)]
    · cases absent
  · exact fun member => .inl ⟨registrar, rfl, member⟩

theorem mem_registrars_reads {id : RegistrarId} : id ∈ (readList reads ∅).registrars ↔
    ∃ registrar : Fin n, id = ⟨registrar⟩ ∧ registrar ∈ reads.map (·.1) := by
  rw [mem_registrars_readList]
  exact or_iff_left List.not_mem_nil

end Reads

theorem PerPhase.length_toList {α : Type} (slots : PerPhase α) : slots.toList.length =
    (slots.find? .willChange).isSome.toNat + (slots.find? .didChange).isSome.toNat := by
  obtain ⟨will, did⟩ := slots
  cases will <;> cases did <;> rfl

theorem Tracker.countTokens_eq (tracker : Tracker κ) {installed : List Installation} {count : Nat}
    (live : ∀ entry ∈ installed, tracker.isLive entry.registrar = true)
    (each : ∀ entry ∈ installed, entry.tokens.toList.length = count) :
    tracker.countTokens installed = installed.length * count := by
  induction installed with
  | nil => simp [countTokens]
  | cons entry rest ih =>
    rw [countTokens, tokenCount, if_pos (live entry (by simp)), each entry (by simp),
      ih (fun other member => live other (by simp [member]))
        (fun other member => each other (by simp [member])), List.length_cons, Nat.succ_mul,
      Nat.add_comm]

namespace Matches
variable {tracked : Tracked n κ} {session : Session κ}

private theorem length_registrars (same : Matches tracked session) :
    session.reads.registrars.length = (tracked.shadow.reads.image (·.1)).card := by
  have different : Function.Injective fun registrar : Fin n => (⟨registrar⟩ : RegistrarId) := by
    intro left right equal
    exact Fin.ext (congrArg RegistrarId.index equal)
  have perm : session.reads.registrars.Perm ((tracked.shadow.reads.image (·.1)).toList.map
      fun registrar : Fin n => (⟨registrar⟩ : RegistrarId)) := by
    apply (List.perm_ext_iff_of_nodup session.reads.registrars_nodup
      ((Finset.nodup_toList _).map different)).mpr
    intro id
    rw [same.registrars, List.mem_map]
    apply exists_congr
    intro registrar
    rw [Finset.mem_toList, and_comm, eq_comm]
  rw [perm.length_eq, List.length_map, Finset.length_toList]

theorem countTokens (same : Matches tracked session) (flags : tracked.Sound)
    (sound : session.Sound) {tracker : Tracker κ}
    (live : ∀ registrar : Fin n, tracker.isLive ⟨registrar⟩ = true) :
    tracker.countTokens session.installed =
      (tracked.shadow.reads.image (·.1)).card * tracked.shadow.pendingCount := by
  by_cases installed : session.status = .installed
  · have registrars := same.installed installed
    have count : session.installed.length = (tracked.shadow.reads.image (·.1)).card := by
      rw [← same.length_registrars, ← registrars, List.length_map]
    rw [← count]
    refine tracker.countTokens_eq ?_ ?_
    · intro entry member
      have read : entry.registrar ∈ session.reads.registrars :=
        registrars ▸ List.mem_map_of_mem member
      obtain ⟨registrar, here, _⟩ := (same.registrars _).mp read
      rw [here]
      exact live registrar
    · intro entry member
      rw [PerPhase.length_toList, sound.tokens entry member, sound.tokens entry member,
        same.isSome_find? flags, same.isSome_find? flags]
      rfl
  · have idle (phase : Phase) : tracked.shadow.pending phase = false := by
      by_contra pending
      have running := Shadow.status_of_pending (by simpa using pending)
      exact installed (same.status.trans running)
    rw [(sound.idle installed).2, Shadow.pendingCount, idle, idle]
    rfl

end Matches

private theorem pending_create (reads : List (Fin n × Key)) (callbacks : PerPhase κ)
    (phase : Phase) : (Tracked.create reads callbacks).shadow.pending phase =
      (callbacks.find? phase).isSome := by
  rw [Bool.eq_iff_iff, Shadow.pending_iff]
  simp [Tracked.create]

private theorem status_create (reads : List (Fin n × Key)) {callbacks : PerPhase κ}
    (given : callbacks.isEmpty = false) :
    (Tracked.create reads callbacks).shadow.status = .installed := by
  obtain ⟨phase, found⟩ := (PerPhase.isEmpty_eq_false_iff _).mp given
  exact Shadow.status_of_pending ((pending_create reads callbacks phase).trans found)

private theorem touches_create {reads : List (Fin n × Key)} {callbacks : PerPhase κ}
    {registrar : Fin n} : (Tracked.create reads callbacks).shadow.touches registrar = true ↔
      registrar ∈ reads.map (·.1) := by
  simp [Shadow.touches_iff, Tracked.create]

private theorem perceivers_installed (reads : List (Fin n × Key)) (callbacks : PerPhase κ)
    (registrar : Fin n) (keys : KeySet) (index next : Nat) :
    (if (⟨registrar⟩ : RegistrarId) ∈ (readList reads ∅).registrars
      then Tracker.ownSubscriptions ⟨index⟩ callbacks ⟨⟨registrar⟩, keys⟩ next
      else []).map (·.perceiver) =
        (Tracked.create reads callbacks).perceivers registrar index := by
  have listed : (⟨registrar⟩ : RegistrarId) ∈ (readList reads ∅).registrars ↔
      (Tracked.create reads callbacks).shadow.touches registrar = true := by
    rw [mem_registrars_reads, touches_create]
    constructor
    · rintro ⟨other, same, read⟩
      rwa [Fin.ext (congrArg RegistrarId.index same)]
    · exact fun read => ⟨registrar, rfl, read⟩
  rw [Tracked.perceivers]
  by_cases touched : (Tracked.create reads callbacks).shadow.touches registrar = true
  · rw [if_pos (listed.mpr touched), if_pos touched, Shadow.pendingPhases]
    simp only [pending_create]
    obtain ⟨will, did⟩ := callbacks
    cases will <;> cases did <;>
      simp [Tracker.ownSubscriptions, Tracker.ownSubscription, PerPhase.find?]
  · rw [if_neg (listed.not.mpr touched), if_neg touched]
    rfl

private theorem totalsOf_append_create (sessions : List (Tracked n κ))
    (reads : List (Fin n × Key)) {callbacks : PerPhase κ} (given : callbacks.isEmpty = false) :
    totalsOf (sessions ++ [.create reads callbacks]) =
      if 0 < ((Tracked.create reads callbacks).shadow.reads.image (·.1)).card *
          (Tracked.create reads callbacks).shadow.pendingCount
      then { totalsOf sessions with installed := (totalsOf sessions).installed + 1 }
      else totalsOf sessions := by
  have status := status_create reads given
  have waits : 0 < (Tracked.create reads callbacks).shadow.pendingCount := by
    rw [Shadow.pendingCount, pending_create, pending_create]
    obtain ⟨_ | will, _ | did⟩ := callbacks
    · cases given
    all_goals simp [PerPhase.find?]
  have some : (0 < ((Tracked.create reads callbacks).shadow.reads.image (·.1)).card *
      (Tracked.create reads callbacks).shadow.pendingCount) ↔
        (Tracked.create reads callbacks).shadow.reads.Nonempty := by
    rw [Nat.mul_pos_iff_of_pos_right waits, Finset.card_pos, Finset.image_nonempty]
  simp only [some, totalsOf, List.countP_append, List.countP_singleton, status]
  by_cases nonempty : (Tracked.create reads callbacks).shadow.reads.Nonempty <;> simp [nonempty]

private theorem matches_create {reads : List (Fin n × Key)} {callbacks : PerPhase κ}
    (given : callbacks.isEmpty = false) {installed : List Installation}
    (registrars : installed.map (·.registrar) = (readList reads ∅).registrars) :
    Matches (Tracked.create reads callbacks)
      ((Session.create (readList reads ∅)).arm callbacks installed) where
  status := (status_create reads given).symm
  callbacks phase := by
    rw [pending_create]
    cases found : callbacks.find? phase <;> simp [Session.arm, Tracked.create, found]
  reads registrar key := by
    simpa [Tracked.create, Session.arm, Session.create] using contains_reads
  registrars id := by
    refine mem_registrars_reads.trans (exists_congr fun registrar => and_congr_right fun _ => ?_)
    simp [Tracked.create]
  installed _ := registrars
  changed := rfl

namespace Tracker
variable {tracker : Tracker κ}

def armFresh (tracker : Tracker κ) (reads : AccessList) (callbacks : PerPhase κ) :
    TraceEvent × Tracker κ :=
  (tracker.createSession reads).2.armOver ⟨tracker.sessions.size⟩ callbacks reads.entries

def givenFresh (tracker : Tracker κ) (reads : AccessList) (callbacks : PerPhase κ) :
    List Installation :=
  (tracker.createSession reads).2.givenTo ⟨tracker.sessions.size⟩ callbacks reads.entries

private theorem session_fresh (tracker : Tracker κ) (reads : AccessList) :
    (tracker.createSession reads).2.session ⟨tracker.sessions.size⟩ = Session.create reads :=
  (session_createSession ..).trans (if_pos rfl)

theorem pending_fresh (tracker : Tracker κ) (reads : AccessList) :
    ((tracker.createSession reads).2.session ⟨tracker.sessions.size⟩).status = .pending := by
  rw [session_fresh]
  rfl

theorem arm_createSession (tracker : Tracker κ) (reads : AccessList) (callbacks : PerPhase κ) :
    (tracker.createSession reads).2.arm ⟨tracker.sessions.size⟩ callbacks =
      .ok (some (tracker.armFresh reads callbacks).1, (tracker.armFresh reads callbacks).2) := by
  rw [arm, pending_fresh, session_fresh]
  rfl

theorem session_armFresh (reads : AccessList) (callbacks : PerPhase κ) (id : SessionId) :
    (tracker.armFresh reads callbacks).2.session id =
      if id = ⟨tracker.sessions.size⟩
      then (Session.create reads).arm callbacks (tracker.givenFresh reads callbacks)
      else tracker.session id := by
  rw [armFresh, session_armOver (pending_fresh tracker reads), session_fresh,
    session_createSession]
  split
  · rfl
  · rename_i other
    exact if_neg other

theorem InStep.armFresh (inStep : tracker.InStep) (reads : AccessList) {callbacks : PerPhase κ}
    (given : callbacks.isEmpty = false) : (tracker.armFresh reads callbacks).2.InStep := by
  have armed := (inStep.createSession reads).arm (pending_fresh tracker reads) given
  rw [session_fresh] at armed
  exact armed

theorem size_armFresh (reads : AccessList) (callbacks : PerPhase κ) :
    (tracker.armFresh reads callbacks).2.sessions.size = tracker.sessions.size + 1 := by
  simp [armFresh, armOver, createSession]

theorem isLive_armFresh (inStep : tracker.InStep) (reads : AccessList)
    (callbacks : PerPhase κ) (id : RegistrarId) :
    (tracker.armFresh reads callbacks).2.isLive id = tracker.isLive id :=
  isLive_armOver (inStep.createSession reads).sound callbacks reads id

private theorem registrars_givenFresh (inStep : tracker.InStep) {reads : AccessList}
    (live : ∀ entry ∈ reads.entries, tracker.isLive entry.registrar = true)
    (callbacks : PerPhase κ) :
    (tracker.givenFresh reads callbacks).map (·.registrar) = reads.registrars := by
  obtain ⟨entries, _⟩ := installEntries_added (inStep.createSession reads).sound
    ⟨tracker.sessions.size⟩ callbacks reads.apart
  have all : reads.entries.filter (fun entry =>
      (tracker.createSession reads).2.isLive entry.registrar) = reads.entries :=
    List.filter_eq_self.mpr live
  rw [givenFresh, givenTo, entries, all]
  simp [AccessList.registrars, Function.comp_def]

theorem subscriptions_armFresh (inStep : tracker.InStep) (reads : AccessList)
    (callbacks : PerPhase κ) {id : RegistrarId} (live : tracker.isLive id = true) :
    ((tracker.armFresh reads callbacks).2.table id).subscriptions =
      (tracker.table id).subscriptions ++
        if id ∈ reads.registrars
        then ownSubscriptions ⟨tracker.sessions.size⟩ callbacks ⟨id, reads.keys id⟩
          (tracker.table id).nextId
        else [] := by
  have live : (tracker.createSession reads).2.isLive id = true := live
  rw [armFresh, subscriptions_armOver (inStep.createSession reads).sound]
  simp only [live, true_and]
  rfl

end Tracker

namespace Mirrors
variable {sessions : List (Tracked n κ)} {tracker : Tracker κ}

/-- A session that is armed over reads stands behind those that are there. -/
theorem track (mirrors : Mirrors sessions tracker) (reads : List (Fin n × Key))
    {callbacks : PerPhase κ} (given : callbacks.isEmpty = false) :
    Mirrors (sessions ++ [.create reads callbacks])
      (tracker.armFresh (readList reads ∅) callbacks).2 := by
  have inStep := mirrors.inStep.armFresh (readList reads ∅) given
  have live (registrar : Fin n) :
      (tracker.armFresh (readList reads ∅) callbacks).2.isLive ⟨registrar⟩ = true := by
    rw [Tracker.isLive_armFresh mirrors.inStep]
    exact mirrors.live registrar
  have there : ∀ entry ∈ (readList reads ∅).entries, tracker.isLive entry.registrar = true := by
    intro entry member
    obtain ⟨registrar, here, _⟩ := mem_registrars_reads.mp (List.mem_map_of_mem member)
    rw [here]
    exact mirrors.live registrar
  have same := matches_create given (Tracker.registrars_givenFresh mirrors.inStep there callbacks)
  refine ⟨inStep, live, ?_, ?_, ?_, ?_, ?_⟩
  · rw [Tracker.size_armFresh, mirrors.size, List.length_append, List.length_singleton]
  · intro tracked member
    rcases List.mem_append.mp member with old | new
    · exact mirrors.sound tracked old
    · rw [List.mem_singleton.mp new]
      exact .create reads callbacks
  · apply forall_getElem?_concat
    · intro index tracked found
      obtain ⟨inside, _⟩ := List.getElem?_eq_some_iff.mp found
      have other : (⟨index⟩ : SessionId) ≠ ⟨tracker.sessions.size⟩ := by
        intro here
        rw [← mirrors.size] at inside
        exact absurd (congrArg SessionId.index here) (Nat.ne_of_lt inside)
      rw [Tracker.session_armFresh, if_neg other]
      exact mirrors.same index tracked found
    · rw [← mirrors.size, Tracker.session_armFresh, if_pos rfl]
      exact same
  · intro registrar
    rw [Tracker.subscriptions_armFresh mirrors.inStep _ _ (mirrors.live registrar),
      List.map_append, mirrors.perceivers, perceivers_installed, waitingFrom_append, Nat.zero_add,
      ← mirrors.size, waitingFrom, waitingFrom, List.append_nil]
  · have armed := inStep.sessions ⟨tracker.sessions.size⟩
    rw [Tracker.session_armFresh, if_pos rfl] at armed
    have counted : ((tracker.createSession (readList reads ∅)).2.installEntries
        ⟨tracker.sessions.size⟩ callbacks (readList reads ∅).entries).2.countTokens _ = _ :=
      same.countTokens (.create reads callbacks) armed live
    rw [totalsOf_append_create sessions reads given, ← counted, ← mirrors.totals]
    exact Tracker.totals_armOver ..

end Mirrors
end ChangeTracking
