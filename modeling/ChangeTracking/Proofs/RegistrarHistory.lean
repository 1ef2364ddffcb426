import ChangeTracking.Proofs.SessionTurns

namespace ChangeTracking

namespace Tracker
variable {κ : Type} {tracker : Tracker κ}

@[simp] theorem size_registrars_setTable (id : RegistrarId) (table : Table κ) :
    (tracker.setTable id table).registrars.size = tracker.registrars.size := Array.size_modify

private theorem size_registrars_cancel (id : RegistrarId) (token : Token) :
    (tracker.cancel id token).2.registrars.size = tracker.registrars.size := by
  unfold cancel
  split
  · split
    · rfl
    · exact size_registrars_setTable _ _
  · rfl

private theorem size_registrars_cancelTokens (id : RegistrarId) (tokens : List Token) :
    (tracker.cancelTokens id tokens).2.registrars.size = tracker.registrars.size := by
  induction tokens generalizing tracker with
  | nil => rfl
  | cons token rest ih => exact ih.trans (size_registrars_cancel id token)

private theorem size_registrars_tearDown (installed : List Installation) :
    (tracker.tearDown installed).2.registrars.size = tracker.registrars.size := by
  induction installed generalizing tracker with
  | nil => rfl
  | cons entry rest ih =>
    unfold tearDown
    split
    · exact ih.trans (size_registrars_cancelTokens _ _)
    · exact ih

theorem size_registrars_tornDown {after : Tracker κ} {id : SessionId} {session : Session κ}
    {spent : List Installation} (torn : ∃ totals, after =
      { ((tracker.setSession id session).tearDown spent).2 with totals }) :
    after.registrars.size = tracker.registrars.size := by
  obtain ⟨totals, rfl⟩ := torn
  exact size_registrars_tearDown spent

private theorem size_registrars_subscribe (id : SessionId) (read : AccessEntry)
    (wanted : PerPhase κ) (phase : Phase) :
    (tracker.subscribe id read wanted phase).2.registrars.size = tracker.registrars.size := by
  unfold subscribe
  split
  · rfl
  · exact size_registrars_setTable _ _

private theorem size_registrars_installEntries (id : SessionId) (wanted : PerPhase κ)
    (reads : List AccessEntry) :
    (tracker.installEntries id wanted reads).2.registrars.size = tracker.registrars.size := by
  induction reads generalizing tracker with
  | nil => rfl
  | cons read rest ih =>
    unfold installEntries
    split
    · refine ih.trans ?_
      exact (size_registrars_subscribe id read wanted .didChange).trans
        (size_registrars_subscribe id read wanted .willChange)
    · exact ih

end Tracker

variable {H : Host} {discipline : Discipline H}

private theorem Evolution.registrars_last {world after : World H} {past : List (World H)}
    (evolution : Evolution discipline (after :: world :: past)) :
    after.tracker.registrars.size = world.tracker.registrars.size ∨
      after.tracker = world.tracker.createRegistrar.2 := by
  cases evolution with
  | call => exact .inl rfl
  | fire _ _ _ due => exact .inl (Tracker.size_registrars_tornDown (Tracker.of_fire? due).tracker)
  | move _ _ move =>
    cases move with
    | own own => exact .inl (by rw [own.1])
    | createRegistrar => exact .inr rfl
    | retain | release => exact .inl Array.size_modify
    | register | cancelAll => exact .inl (Tracker.size_registrars_setTable _ _)
    | cancel id token => exact .inl (Tracker.size_registrars_cancel id token)
    | arm => exact .inl (Tracker.size_registrars_installEntries _ _ _)
    | cancelSession ended =>
      exact .inl (Tracker.size_registrars_tornDown (Tracker.of_cancelSession? ended).tracker)
    | thread | createSession | notified | call => exact .inl rfl

theorem Evolution.registrars_le {worlds : List (World H)}
    (evolution : Evolution discipline worlds) : worlds.Pairwise fun later earlier =>
      earlier.tracker.registrars.size ≤ later.tracker.registrars.size := by
  refine evolution.ordered ?_ ?_
  · exact fun _ _ _ first second => Nat.le_trans first second
  · intro world after past next
    rcases next.registrars_last with same | created
    · exact Nat.le_of_eq same.symm
    · rw [created]
      exact Nat.le_trans (Nat.le_succ _) (Nat.le_of_eq (Array.size_push _).symm)

theorem Evolution.registrars_le_of_mem {world earlier : World H} {past : List (World H)}
    (evolution : Evolution discipline (world :: past)) (member : earlier ∈ world :: past) :
    earlier.tracker.registrars.size ≤ world.tracker.registrars.size :=
  World.related_of_mem
    (fun later earlier => earlier.tracker.registrars.size ≤ later.tracker.registrars.size)
    (fun _ => Nat.le_refl _) evolution.registrars_le member

/-- A moment of a run, with all that was before it, at which a registrar was created. -/
def CreatedAt (worlds moment : List (World H)) (id : RegistrarId) : Prop :=
  moment <:+ worlds ∧ ∃ after before past, moment = after :: before :: past ∧
    before.tracker.createRegistrar = (id, after.tracker)

namespace Evolution

theorem exists_createdAt {world : World H} {past : List (World H)}
    (evolution : Evolution discipline (world :: past)) {id : RegistrarId}
    (known : id.index < world.tracker.registrars.size) :
    ∃ moment, CreatedAt (world :: past) moment id := by
  induction past generalizing world with
  | nil =>
    cases evolution
    exact absurd known (Nat.not_lt_zero _)
  | cons earlier past ih =>
    have older (known : id.index < earlier.tracker.registrars.size) :
        ∃ moment, CreatedAt (world :: earlier :: past) moment id := by
      obtain ⟨moment, suffix, created⟩ := ih evolution.tail known
      exact ⟨moment, suffix.trans (List.suffix_cons _ _), created⟩
    rcases evolution.registrars_last with same | created
    · exact older (same ▸ known)
    · by_cases before : id.index < earlier.tracker.registrars.size
      · exact older before
      · rw [created, Tracker.createRegistrar, Array.size_push] at known
        have last : id = earlier.tracker.createRegistrar.1 :=
          RegistrarId.index_inj.mp (show id.index = earlier.tracker.registrars.size by omega)
        exact ⟨_, List.suffix_refl _, world, earlier, past, rfl, by rw [created, last]⟩

/-- No two registrars of a run have the same identity. -/
theorem createdAt_unique {worlds first second : List (World H)}
    (evolution : Evolution discipline worlds) {id : RegistrarId}
    (one : CreatedAt worlds first id) (other : CreatedAt worlds second id) : first = second := by
  have facts {after before : World H}
      (created : before.tracker.createRegistrar = (id, after.tracker)) :
      id.index = before.tracker.registrars.size ∧ id.index < after.tracker.registrars.size := by
    obtain ⟨rfl, tracker⟩ := Prod.mk.inj created
    rw [← tracker]
    exact ⟨rfl, by simp⟩
  obtain ⟨suffix, after, before, past, rfl, created⟩ := one
  obtain ⟨suffix', after', before', past', rfl, created'⟩ := other
  obtain ⟨fresh, used⟩ := facts created
  obtain ⟨fresh', used'⟩ := facts created'
  have stays := evolution.registrars_le.imp fun {later earlier} grown (used : id.index < _) =>
    Nat.lt_of_lt_of_le used grown
  exact World.moment_unique stays suffix suffix' used (by omega) used' (by omega)

end Evolution
end ChangeTracking
