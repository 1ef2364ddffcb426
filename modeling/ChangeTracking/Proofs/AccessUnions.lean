import ChangeTracking.Proofs.Installing
import ChangeTracking.Proofs.OrderIndependence
import Mathlib.Data.Set.Card

/-! Access lists as finite sets of pairs. Programs get hold of lists that are new, recorded or united,
and what such a list tells of itself is what is to be said of the set of its pairs. Uniting is uniting
these sets, down to what a session subscribes to, whichever list brings its handles along. -/
namespace ChangeTracking

namespace Key

private theorem precedes_iff (left right : List Char) :
    precedes left right = true ↔ left < right := by
  induction left generalizing right with
  | nil => cases right <;> simp [precedes]
  | cons head rest ih =>
    cases right with
    | nil => simp [precedes]
    | cons other others =>
      rw [precedes, List.cons_lt_cons_iff, ← ih, Bool.or_eq_true, Bool.and_eq_true,
        decide_eq_true_eq, beq_iff_eq]
      rfl

theorem lt_iff_label {left right : Key} : left < right ↔ left.label < right.label := by
  rw [String.lt_iff]
  exact precedes_iff ..

end Key

namespace AccessList

private theorem encard_of_listed {α : Type} {members : Set α} {items : List α} (nodup : items.Nodup)
    (listed : ∀ item, item ∈ items ↔ item ∈ members) : members.encard = items.length := by
  classical
  have same : members = (items.toFinset : Set α) := by
    ext item
    rw [List.coe_toFinset]
    exact (listed item).symm
  rw [same, Set.encard_coe_eq_coe_finsetCard, List.toFinset_card_of_nodup nodup]

def pairs (list : AccessList) : Set Read := {read | list.contains read.1 read.2 = true}

private def pairsIn (entries : List AccessEntry) : List Read :=
  entries.flatMap fun entry => entry.keys.toList.map (Prod.mk entry.registrar)

private theorem length_pairsIn (entries : List AccessEntry) :
    (pairsIn entries).length = countKeys entries := by
  induction entries with
  | nil => rfl
  | cons entry rest ih =>
    rw [pairsIn, List.flatMap_cons, List.length_append, List.length_map, ← pairsIn, ih]
    rfl

private theorem pairsIn_nodup (list : AccessList) : (pairsIn list.entries).Nodup := by
  apply List.nodup_flatMap.mpr
  constructor
  · intro entry _
    exact entry.keys.nodup.map fun _ _ same => congrArg Prod.snd same
  · refine list.apart.imp fun {left right} different => ?_
    intro read one other
    obtain ⟨_, _, rfl⟩ := List.mem_map.mp one
    obtain ⟨_, _, same⟩ := List.mem_map.mp other
    exact different (congrArg Prod.fst same).symm

private theorem mem_pairsIn_iff {list : AccessList} {read : Read} :
    read ∈ pairsIn list.entries ↔ read ∈ list.pairs := by
  have pair : read ∈ list.pairs ↔ list.contains read.1 read.2 = true := Iff.rfl
  rw [pair, contains_iff, pairsIn, List.mem_flatMap]
  refine exists_congr fun entry => and_congr_right fun _ => ?_
  constructor
  · intro member
    obtain ⟨key, covers, rfl⟩ := List.mem_map.mp member
    exact ⟨rfl, covers⟩
  · rintro ⟨own, covers⟩
    exact List.mem_map.mpr ⟨read.2, covers, congrArg (·, read.2) own⟩

theorem encard_pairs (list : AccessList) : list.pairs.encard = list.accessCount := by
  rw [encard_of_listed list.pairsIn_nodup fun _ => mem_pairsIn_iff, length_pairsIn, accessCount]

/-- Something was read from each registrar that is listed. -/
def Filled (list : AccessList) : Prop := ∀ entry ∈ list.entries, ∃ key, key ∈ entry.keys

theorem ofReads_filled (reads : List Read) : (ofReads reads).Filled := by
  intro entry member
  have listed : entry.registrar ∈ (ofReads reads).registrars := List.mem_map_of_mem member
  obtain ⟨⟨registrar, key⟩, read, rfl⟩ := List.mem_map.mp (mem_registrars_ofReads.mp listed)
  refine ⟨key, ?_⟩
  rw [← keys_of_mem member]
  exact mem_keys_ofReads.mpr read

variable {list other : AccessList}

theorem Filled.mem_registrars_iff (filled : list.Filled) {id : RegistrarId} :
    id ∈ list.registrars ↔ ∃ key, list.contains id key = true := by
  constructor
  · intro listed
    obtain ⟨entry, member, rfl⟩ := List.mem_map.mp listed
    obtain ⟨key, covers⟩ := filled entry member
    exact ⟨key, contains_iff.mpr ⟨entry, member, rfl, covers⟩⟩
  · rintro ⟨key, covers⟩
    obtain ⟨entry, member, rfl, _⟩ := contains_iff.mp covers
    exact List.mem_map_of_mem member

theorem Filled.encard_registrars (filled : list.Filled) :
    {id | ∃ key, list.contains id key = true}.encard = list.size := by
  have listed (id : RegistrarId) :
      id ∈ list.registrars ↔ id ∈ {id | ∃ key, list.contains id key = true} :=
    filled.mem_registrars_iff
  rw [encard_of_listed list.registrars_nodup listed, registrars, List.length_map, size]

theorem Filled.isEmpty_iff (filled : list.Filled) :
    list.isEmpty = true ↔ ∀ id key, list.contains id key = false := by
  rw [isEmpty, List.isEmpty_iff]
  constructor
  · intro empty id key
    rw [← Bool.not_eq_true, contains_iff, empty]
    simp
  · intro none
    apply List.eq_nil_iff_forall_not_mem.mpr
    intro entry member
    obtain ⟨key, covers⟩ := filled entry member
    have holds := contains_iff.mpr ⟨entry, member, rfl, covers⟩
    rw [none] at holds
    cases holds

/-- What a list tells of itself is right of the set of its pairs. -/
structure Reflects (list : AccessList) : Prop where
  filled : list.Filled
  sorted : ∀ id, (list.keys id).toList.Pairwise fun left right => left.label < right.label
  keys : ∀ id key, key ∈ (list.keys id).toList ↔ (id, key) ∈ list.pairs
  accessCount : list.accessCount = list.pairs.encard
  size : list.size = {id | ∃ key, (id, key) ∈ list.pairs}.encard
  isEmpty : list.isEmpty = true ↔ list.pairs = ∅

theorem Filled.reflects (filled : list.Filled) : list.Reflects where
  filled := filled
  sorted id := (list.keys id).ascending.imp Key.lt_iff_label.mp
  keys id key := by simp [pairs, contains]; rfl
  accessCount := list.encard_pairs.symm
  size := filled.encard_registrars.symm
  isEmpty := by
    rw [filled.isEmpty_iff, Set.eq_empty_iff_forall_notMem, Prod.forall]
    simp [pairs]

/-- New lists, recordings and unions. A list may be copied, since it can be used any number of times. -/
inductive Obtained (H : Host) : AccessList → Prop where
  | new : Obtained H ∅
  | recorded {α : Type} {program : Program H α} {world : World H} {value : α} {list : AccessList}
      (returned : ((record program.act).run world).1 = .ok (value, list)) : Obtained H list
  | merged {list other : AccessList} (one : Obtained H list) (two : Obtained H other) :
      Obtained H (list.merge other)

private theorem Gained.eq_ofReads {reads : List Read} (gained : (∅ : AccessList).Gained list reads) :
    list = ofReads reads := by
  refine ext_pairs (fun id => ?_) fun id key => ?_
  · rw [gained.registrars, mem_registrars_ofReads]
    have blank : id ∉ (∅ : AccessList).registrars := List.not_mem_nil
    simp [blank]
  · rw [gained.contains, contains_ofReads]
    exact or_iff_right Bool.false_ne_true

private theorem eq_ofReads_of_recorded {H : Host} {α : Type} {program : Program H α} {world : World H}
    {value : α} (returned : ((record program.act).run world).1 = .ok (value, list)) :
    list = ofReads (program.reads world.recordingAnew) := by
  have inside : Recorded _ (some ∅) _ := program.records world.recordingAnew
  rw [Act.run_record] at returned
  rcases ending : program.act.run world.recordingAnew with ⟨result, after⟩
  rw [ending] at returned inside
  cases result with
  | error panic => cases returned
  | ok answer =>
    obtain rfl : after.recorded = list := congrArg Prod.snd (Except.ok.inj returned)
    rcases slot : after.thread.recording with _ | inner
    · rw [slot] at inside
      exact inside.elim
    · rw [slot] at inside
      rw [World.recorded, slot]
      exact Gained.eq_ofReads inside

theorem Obtained.eq_ofReads {H : Host} (obtained : Obtained H list) :
    ∃ reads, list = ofReads reads := by
  induction obtained with
  | new => exact ⟨[], rfl⟩
  | recorded returned => exact ⟨_, eq_ofReads_of_recorded returned⟩
  | merged _ _ one two =>
    obtain ⟨reads, rfl⟩ := one
    obtain ⟨more, rfl⟩ := two
    exact ⟨reads ++ more, (ofReads_append reads more).symm⟩

theorem Obtained.filled {H : Host} (obtained : Obtained H list) : list.Filled := by
  obtain ⟨reads, rfl⟩ := obtained.eq_ofReads
  exact ofReads_filled reads

end AccessList

/-- An entry as it is filed: under an identity, with a handle to a registrar and the keys that were read
there. -/
structure FiledEntry where
  id : RegistrarId
  handle : RegistrarId
  keys : KeySet

namespace FiledEntry

def opened (filed : FiledEntry) : AccessEntry := ⟨filed.handle, filed.keys⟩

/-- Files an entry. One that is there under its identity keeps its handle and gains the keys. -/
def file (filing : List FiledEntry) (filed : FiledEntry) : List FiledEntry :=
  if filing.any (·.id = filed.id) then
    filing.map fun old =>
      if old.id = filed.id then { old with keys := old.keys ∪ filed.keys } else old
  else filing ++ [filed]

def add (filing : List FiledEntry) (registrar : RegistrarId) (key : Key) : List FiledEntry :=
  file filing ⟨registrar, registrar, .ofList [key]⟩

def merge (filing more : List FiledEntry) : List FiledEntry := more.foldl file filing

/-- A list is kept as filed entries, in whatever order, if each handle leads to the registrar under
whose identity it is filed. -/
structure Keeps (filing : List FiledEntry) (list : AccessList) : Prop where
  handles : ∀ filed ∈ filing, filed.handle = filed.id
  entries : (filing.map opened).Perm list.entries

/-- An entry with the keys that are filed, if it is about the same registrar. -/
private def extended (read entry : AccessEntry) : AccessEntry :=
  if entry.registrar = read.registrar then ⟨entry.registrar, entry.keys ∪ read.keys⟩ else entry

private theorem place_of_listed {read : AccessEntry} {entries : List AccessEntry}
    (ascending : entries.Pairwise fun left right => left.registrar < right.registrar)
    (listed : read.registrar ∈ entries.map (·.registrar)) :
    AccessList.place read entries = entries.map (extended read) := by
  induction entries with
  | nil => cases listed
  | cons head rest ih =>
    obtain ⟨below, ascending⟩ := List.pairwise_cons.mp ascending
    rw [AccessList.place, List.map_cons]
    split
    · rename_i before
      rcases List.mem_cons.mp listed with same | later
      · rw [RegistrarId.lt_iff, same] at before
        exact absurd before (Nat.lt_irrefl _)
      · obtain ⟨entry, member, same⟩ := List.mem_map.mp later
        have after := below entry member
        rw [same] at after
        exact absurd before (Nat.lt_asymm after)
    · split
      · rename_i same
        have others : rest.map (extended read) = rest := by
          refine (List.map_congr_left fun entry member => ?_).trans (List.map_id' rest)
          have after := below entry member
          rw [extended, if_neg]
          intro here
          rw [RegistrarId.lt_iff, here, same] at after
          exact Nat.lt_irrefl _ after
        rw [others, extended, if_pos same.symm]
      · rename_i different
        have later := (List.mem_cons.mp listed).resolve_left different
        rw [ih ascending later, extended, if_neg (Ne.symm different)]

private theorem place_of_absent {read : AccessEntry} {entries : List AccessEntry}
    (absent : read.registrar ∉ entries.map (·.registrar)) :
    (AccessList.place read entries).Perm (read :: entries) := by
  induction entries with
  | nil => exact .refl _
  | cons head rest ih =>
    obtain ⟨different, absent⟩ := not_or.mp (absent ∘ List.mem_cons.mpr)
    rw [AccessList.place]
    split
    · exact .refl _
    · exact ((ih absent).cons head).trans (.swap read head rest)

namespace Keeps
variable {filing more : List FiledEntry} {list other : AccessList}

private theorem listed_iff (keeps : Keeps filing list) {filed : FiledEntry}
    (own : filed.handle = filed.id) :
    filed.opened.registrar ∈ list.entries.map (·.registrar) ↔
      filing.any (·.id = filed.id) = true := by
  rw [← (keeps.entries.map (·.registrar)).mem_iff, List.map_map, List.mem_map, List.any_eq_true]
  refine exists_congr fun old => and_congr_right fun member => ?_
  simp [opened, keeps.handles old member, own]

private theorem opened_extended (handles : ∀ old ∈ filing, old.handle = old.id) {filed : FiledEntry}
    (own : filed.handle = filed.id) :
    (filing.map fun old =>
        if old.id = filed.id then { old with keys := old.keys ∪ filed.keys } else old).map opened =
      (filing.map opened).map (extended filed.opened) := by
  rw [List.map_map, List.map_map]
  refine List.map_congr_left fun old member => ?_
  have handle := handles old member
  by_cases same : old.id = filed.id <;> simp [opened, extended, same, handle, own]

theorem file (keeps : Keeps filing list) {filed : FiledEntry} (own : filed.handle = filed.id) :
    Keeps (file filing filed) (list.join filed.opened) := by
  unfold FiledEntry.file
  split
  · rename_i there
    constructor
    · intro entry member
      obtain ⟨old, present, rfl⟩ := List.mem_map.mp member
      have handle := keeps.handles old present
      split <;> exact handle
    · have placed : (list.join filed.opened).entries = list.entries.map (extended filed.opened) :=
        place_of_listed list.ascending ((keeps.listed_iff own).mpr there)
      rw [opened_extended keeps.handles own, placed]
      exact keeps.entries.map _
  · rename_i absent
    constructor
    · intro entry member
      rcases List.mem_append.mp member with old | new
      · exact keeps.handles entry old
      · rw [List.mem_singleton.mp new]
        exact own
    · have placed : (list.join filed.opened).entries.Perm (filed.opened :: list.entries) :=
        place_of_absent (absent ∘ (keeps.listed_iff own).mp)
      refine .trans ?_ placed.symm
      rw [List.map_append]
      exact (List.perm_append_singleton _ _).trans (keeps.entries.cons _)

theorem add (keeps : Keeps filing list) (registrar : RegistrarId) (key : Key) :
    Keeps (add filing registrar key) (list.add registrar key) := keeps.file rfl

private theorem foldl_file (keeps : Keeps filing list)
    (handles : ∀ filed ∈ more, filed.handle = filed.id) :
    Keeps (more.foldl FiledEntry.file filing) ((more.map opened).foldl AccessList.join list) := by
  induction more generalizing filing list with
  | nil => exact keeps
  | cons filed rest ih =>
    obtain ⟨own, handles⟩ := List.forall_mem_cons.mp handles
    exact ih (keeps.file own) handles

private theorem join_comm (list : AccessList) (one two : AccessEntry) :
    (list.join one).join two = (list.join two).join one := by
  refine AccessList.ext_pairs (fun id => ?_) fun id key => ?_
  · simp only [AccessList.mem_registrars_join, or_left_comm]
  · simp only [AccessList.contains_join, or_left_comm]

/-- What is kept of two lists is kept of their union, whichever handles are kept. -/
theorem merge (keeps : Keeps filing list) (others : Keeps more other) :
    Keeps (merge filing more) (list.merge other) := by
  have united : (more.map opened).foldl AccessList.join list = list.merge other :=
    others.entries.foldl_eq' (fun one _ two _ list => join_comm list one two) list
  rw [← united]
  exact keeps.foldl_file others.handles

/-- Filed entries come in one of the orders in which a list may be gone through. -/
theorem exists_order (keeps : Keeps filing list) :
    ∃ order : HashOrder, ∀ id, order.entries id list = filing.map opened := by
  have openings : (filing.map fun filed => (filed.handle, filed.keys.toList)).map
      AccessEntry.ofKeys = filing.map opened := by
    rw [List.map_map]
    refine List.map_congr_left fun filed _ => ?_
    exact congrArg (AccessEntry.mk filed.handle) filed.keys.ofList_toList
  refine ⟨⟨fun id reads => if reads = list
    then filing.map fun filed => (filed.handle, filed.keys.toList)
    else HashOrder.ascending.enumerate id reads, fun id reads => ?_⟩, fun id => ?_⟩
  · split
    · rename_i same
      rw [openings, same]
      exact keeps.entries
    · exact HashOrder.ascending.complete id reads
  · rw [HashOrder.entries]
    simp only [if_true]
    exact openings

end Keeps

/-- Filed entries that were made as lists are: from nothing, by reads and by uniting. A hash map may hand
them out in any order. -/
inductive Made : List FiledEntry → AccessList → Prop where
  | new : Made [] ∅
  | add {filing : List FiledEntry} {list : AccessList} (made : Made filing list)
      (registrar : RegistrarId) (key : Key) : Made (add filing registrar key) (list.add registrar key)
  | merge {filing more : List FiledEntry} {list other : AccessList} (one : Made filing list)
      (two : Made more other) : Made (merge filing more) (list.merge other)
  | reorder {filing more : List FiledEntry} {list : AccessList} (made : Made filing list)
      (perm : more.Perm filing) : Made more list

theorem Made.keeps {filing : List FiledEntry} {list : AccessList} (made : Made filing list) :
    Keeps filing list := by
  induction made with
  | new => exact ⟨nofun, .nil⟩
  | add _ registrar key ih => exact ih.add registrar key
  | merge _ _ one two => exact one.merge two
  | reorder _ perm ih =>
    exact ⟨fun filed member => ih.handles filed (perm.subset member), (perm.map _).trans ih.entries⟩

theorem exists_made_ofReads (reads : List Read) : ∃ filing, Made filing (.ofReads reads) := by
  induction reads with
  | nil => exact ⟨[], .new⟩
  | cons read rest ih =>
    obtain ⟨filing, made⟩ := ih
    rw [AccessList.ofReads_cons]
    exact ⟨_, (Made.new.add read.1 read.2).merge made⟩

end FiledEntry

/-- What a session over some pairs gets in the tables: at each registrar that is alive and has keys
among them, one subscription to these keys for each phase that is wanted. -/
def Tracker.SubscribesTo {κ : Type} (id : SessionId) (pairs : Set Read) (wanted : PerPhase κ)
    (before after : Tracker κ) : Prop :=
  ∀ registrar, ∃ new,
    (after.table registrar).subscriptions = (before.table registrar).subscriptions ++ new ∧
      (before.isLive registrar = true → (∃ key, (registrar, key) ∈ pairs) →
        new.map (·.phase) = wanted.phases) ∧
      (before.isLive registrar = false ∨ (∀ key, (registrar, key) ∉ pairs) → new = []) ∧
      ∀ subscription ∈ new, (∀ key, key ∈ subscription.keys ↔ (registrar, key) ∈ pairs) ∧
        subscription.perceiver = .session id registrar subscription.phase

theorem Tracker.Enlisted.subscribesTo {κ : Type} {id : SessionId} {reads : AccessList}
    {wanted : PerPhase κ} {before after : Tracker κ} (enlisted : Enlisted id reads wanted before after)
    (filled : reads.Filled) : SubscribesTo id reads.pairs wanted before after := by
  intro registrar
  obtain ⟨new, gained, phases, own⟩ := enlisted.gained registrar
  refine ⟨new, gained, fun live read => ?_, fun none => ?_, fun subscription member => ?_⟩
  · rw [phases, if_pos ⟨live, filled.mem_registrars_iff.mpr read⟩]
  · have absent : ¬ (before.isLive registrar = true ∧ registrar ∈ reads.registrars) := by
      rintro ⟨live, listed⟩
      obtain ⟨key, read⟩ := filled.mem_registrars_iff.mp listed
      rcases none with gone | unread
      · rw [live] at gone
        cases gone
      · exact unread key read
    rw [if_neg absent] at phases
    exact List.map_eq_nil_iff.mp phases
  · obtain ⟨keys, perceiver⟩ := own subscription member
    refine ⟨fun key => ?_, perceiver⟩
    rw [keys]
    exact filled.reflects.keys registrar key

section Sessions
variable {H : Host} {world : World H} {reads : AccessList}

/-- A session over a list, installed while the list is gone through in some order. -/
def sessionOver (order : HashOrder) (reads : AccessList) (callbacks : PerPhase H.Callback) :
    Act H (Except TrackingError Unit) := do
  let id ← Act.track (·.createSession reads)
  installIn order id callbacks

theorem subscribesTo_of_sessionOver (inStep : world.tracker.InStep) (filled : reads.Filled)
    (callbacks : PerPhase H.Callback) :
    Tracker.SubscribesTo (world.tracker.createSession reads).1 reads.pairs callbacks world.tracker
      ((sessionOver .ascending reads callbacks).run world).2.tracker := by
  have session : (world.tracker.createSession reads).2.session
      (world.tracker.createSession reads).1 = Session.create reads := by
    rw [Tracker.session_createSession, if_pos rfl]
  have pending : ((world.tracker.createSession reads).2.session
      (world.tracker.createSession reads).1).status = .pending := congrArg Session.status session
  rw [sessionOver, Act.run_bind_ok (Act.run_track _ world), installIn_ascending]
  rcases empty : callbacks.isEmpty with _ | _
  · have armed := (inStep.createSession reads).enlisted_armOver pending callbacks reads
    rw [run_install_of_pending empty pending]
    simp only [session]
    exact armed.subscribesTo filled
  · have none := callbacks.isEmpty_iff.mp empty
    rw [install_of_empty empty]
    refine fun registrar => ⟨[], (List.append_nil _).symm, fun _ _ => ?_, fun _ => rfl, by simp⟩
    simp [PerPhase.phases, none]

/-- In whatever order its list is gone through, a session comes out alike. -/
theorem sessionOver_agree (one two : HashOrder) (reads : AccessList)
    (callbacks : PerPhase H.Callback) :
    (sessionOver one reads callbacks).Agree (sessionOver two reads callbacks) :=
  (Act.Agree.createSession reads).bind fun id => .installIn one two id callbacks

end Sessions

theorem AccessList.pairs_merge (list other : AccessList) :
    (list.merge other).pairs = list.pairs ∪ other.pairs := by
  ext read
  exact contains_merge

/-- What holds of lists and their unions. -/
structure AccessList.Semilattice {H : Host} (world : World H) (list other third : AccessList) :
    Prop where
  reflects : list.Reflects
  union : (list.merge other).Reflects ∧ (list.merge other).pairs = list.pairs ∪ other.pairs
  assoc : (list.merge other).merge third = list.merge (other.merge third)
  comm : list.merge other = other.merge list
  idem : list.merge list = list
  identity : list.merge ∅ = list ∧ (∅ : AccessList).merge list = list
  made : ∃ filing, FiledEntry.Made filing list
  handles : ∀ filing more, FiledEntry.Made filing list → FiledEntry.Made more other →
    FiledEntry.Keeps (FiledEntry.merge filing more) (list.merge other) ∧
      FiledEntry.Keeps (FiledEntry.merge more filing) (list.merge other)
  orders : ∀ filing, FiledEntry.Keeps filing (list.merge other) → ∃ order : HashOrder, ∀ id,
    order.entries id (list.merge other) = filing.map FiledEntry.opened
  /-- Sessions over the union, taken either way and gone through in any order, subscribe to the pairs
  of both lists. -/
  sessions : ∀ first second (callbacks : PerPhase H.Callback),
    let left := (sessionOver first (list.merge other) callbacks).run world
    let right := (sessionOver second (other.merge list) callbacks).run world
    left.1 = right.1 ∧ left.2.LooksLike right.2 ∧
      Tracker.SubscribesTo ⟨world.tracker.sessions.size⟩ (list.pairs ∪ other.pairs) callbacks
        world.tracker left.2.tracker

/-- Lists that programs get hold of are finite sets of pairs, and uniting them is uniting these sets. -/
theorem Reachable.access_lists_unite {H : Host} {discipline : Discipline H} {world : World H}
    (reachable : Reachable discipline world) {list other : AccessList}
    (one : AccessList.Obtained H list) (two : AccessList.Obtained H other) (third : AccessList) :
    AccessList.Semilattice world list other third := by
  have identity : (∅ : AccessList).merge list = list := list.empty_merge
  have filled := (one.merged two).filled
  refine ⟨one.filled.reflects, ⟨filled.reflects, list.pairs_merge other⟩,
    list.merge_assoc other third, list.merge_comm other, list.merge_self,
    ⟨(list.merge_comm ∅).trans identity, identity⟩, ?_, fun filing more made making => ⟨?_, ?_⟩,
    fun filing keeps => keeps.exists_order, ?_⟩
  · obtain ⟨reads, rfl⟩ := one.eq_ofReads
    exact FiledEntry.exists_made_ofReads reads
  · exact made.keeps.merge making.keeps
  · rw [list.merge_comm other]
    exact making.keeps.merge made.keeps
  · intro first second callbacks
    rw [← list.merge_comm other]
    have alike := sessionOver_agree first second (list.merge other) callbacks world world
      reachable.alike
    refine ⟨alike.result, alike.after.looksLike, ?_⟩
    have sorted := sessionOver_agree .ascending first (list.merge other) callbacks world world
      reachable.alike
    have subscribes := subscribesTo_of_sessionOver reachable.inStep filled callbacks
    rw [list.pairs_merge other] at subscribes
    intro registrar
    rw [sorted.after.tracker.table]
    exact subscribes registrar

/-- A key of one registrar is united with another key of it and one of another registrar. -/
theorem Reachable.access_lists_unite_of_readTwo :
    AccessList.Obtained Host.plain (.ofReads [(⟨0⟩, ⟨"a"⟩)]) ∧
      AccessList.Obtained Host.plain (.ofReads [(⟨0⟩, ⟨"b"⟩), (⟨1⟩, ⟨"a"⟩)]) ∧
      AccessList.Semilattice (readTwo.run (World.initial ())).2 (.ofReads [(⟨0⟩, ⟨"a"⟩)])
        (.ofReads [(⟨0⟩, ⟨"b"⟩), (⟨1⟩, ⟨"a"⟩)]) ∅ := by
  let first : Program Host.plain Unit := .access ⟨0⟩ ⟨"a"⟩
  let second : Program Host.plain Unit := .bind (.access ⟨0⟩ ⟨"b"⟩) fun _ => .access ⟨1⟩ ⟨"a"⟩
  have one : AccessList.Obtained Host.plain (.ofReads [(⟨0⟩, ⟨"a"⟩)]) :=
    @AccessList.Obtained.recorded _ _ first (World.initial ()) () _ rfl
  have two : AccessList.Obtained Host.plain (.ofReads [(⟨0⟩, ⟨"b"⟩), (⟨1⟩, ⟨"a"⟩)]) :=
    @AccessList.Obtained.recorded _ _ second (World.initial ()) () _ rfl
  exact ⟨one, two, reachable_readTwo.access_lists_unite one two ∅⟩

end ChangeTracking
