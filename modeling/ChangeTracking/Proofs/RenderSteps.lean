import ChangeTracking.Proofs.CounterCourse
import ChangeTracking.Proofs.PostingSessions
import ChangeTracking.Proofs.Renderings

namespace ChangeTracking
variable {H : Host} {posting : Posting H}

namespace Sink
variable (sink : Sink) (text : String)

theorem room_write : (sink.write text).2.room = none ↔ sink.room = none := by
  unfold write
  rcases sink.room with _ | room
  · simp
  · dsimp only
    split <;> simp

theorem text_write (complete : (sink.write text).1 = true) :
    (sink.write text).2.text = sink.text ++ text := by
  obtain ⟨_ | room, before⟩ := sink
  · rfl
  · by_cases fits : text.utf8ByteSize ≤ room
    · simp [write, fits]
    · simp [write, fits] at complete

theorem complete_write (unlimited : sink.room = none) : (sink.write text).1 = true := by
  rw [write, unlimited]

end Sink

namespace Counter
variable {world : World H} {id : CounterId} {counter : Counter}

theorem run_peek (found : world.counters[id.index]? = some counter) :
    (peek id).run world = (.ok counter, world) := by
  have read : (peek id).run world = (.ok ((world.counters[id.index]?).getD default), world) := rfl
  rw [read, found]
  rfl

theorem run_view (found : world.counters[id.index]? = some counter) (mode : RenderMode) :
    (view id mode).run world = (.ok (counter.frame mode),
      world.gained (mode.keys.map fun key => (counter.registrar, key))) := by
  have count (world : World H) (found : world.counters[id.index]? = some counter) :
      (readCount id).run world =
        (.ok counter.count, world.gained [(counter.registrar, countKey)]) := by
    rw [readCount, Act.run_bind_ok (run_peek found), Act.run_bind_ok (run_access ..)]
    rfl
  have name (world : World H) (found : world.counters[id.index]? = some counter) :
      (readName id).run world =
        (.ok counter.name, world.gained [(counter.registrar, nameKey)]) := by
    rw [readName, Act.run_bind_ok (run_peek found), Act.run_bind_ok (run_access ..)]
    rfl
  cases mode with
  | count => exact Act.run_bind_ok (count world found)
  | name => exact Act.run_bind_ok (name world found)
  | both =>
    refine (Act.run_bind_ok (count world found)).trans ?_
    refine (Act.run_bind_ok (name (world.gained [(counter.registrar, countKey)]) found)).trans ?_
    rw [← World.gained_append]
    rfl

end Counter

namespace RenderLoop

/-- An application in its world: its counter and its mailbox are there, and those who are subscribed to
the counter are sessions that post to the mailbox. -/
structure Attended (posting : Posting H) (counter : Counter) (waiting : List SessionId)
    (posted : Mailbox) (loop : RenderLoop) (world : World H) : Prop where
  held : world.counters[loop.counter.index]? = some counter
  mail : world.mailboxes[loop.mailbox.index]? = some posted
  watched : world.tracker.WatchedBy counter.registrar loop.config.mode.keys
    (posting.callback loop.mailbox) waiting

/-- An application that could be run: its mailbox is empty. -/
def Ready (posting : Posting H) (loop : RenderLoop) (world : World H) : Prop :=
  ∃ counter waiting, counter.Regular ∧ loop.Attended posting counter waiting [] world

/-- An application that has come as far as a course says, with earlier text in its output. -/
structure Follows (posting : Posting H) (earlier : String) (config : RenderConfig)
    (course : RenderCourse) (loop : RenderLoop) (world : World H) : Prop where
  config : loop.config = config
  attended : ∃ waiting, waiting.length = course.waiting ∧
    loop.Attended posting course.counter waiting [] world
  text : loop.sink.text = earlier ++ transcript course.lines
  summary : loop.summary = course.tallies.words

/-- An application whose run ended for want of room, at the line of a rendering, when it had come to
these tallies. -/
def Exhausted (posting : Posting H) (tallies : Tallies) (loop : RenderLoop) (world : World H) :
    Prop := Ready posting loop world ∧ loop.summary = tallies.words

/-- What a rendering does: it adds its line to the output, and one more session waits. -/
structure Rendered (posting : Posting H) (counter : Counter) (waiting : List SessionId)
    (loop : RenderLoop) (world : World H) (after : RenderLoop) (left : World H) : Prop where
  config : after.config = loop.config
  attended : after.Attended posting counter (waiting ++ [⟨world.tracker.sessions.size⟩]) [] left
  opened : world.tracker.Opened left.tracker
  session : after.session = some ⟨world.tracker.sessions.size⟩
  text : after.sink.text = loop.sink.text ++
    line loop.countRender.summary.renders (counter.frame loop.config.mode)
  summary : after.summary = loop.countRender.summary

/-- An application that has taken note of so many changes. -/
def noted (loop : RenderLoop) (changes : Nat) : RenderLoop :=
  { loop with summary.notifications := loop.summary.notifications + .ofNat changes }

/-- The first part of a step: its value is written or left out, and then the mailbox is emptied, in which
there are these events. -/
def Delivers (posting : Posting H) (number : Nat) (kept : Bool) (events : List ChangeEvent)
    (loop : RenderLoop) (world after : World H) : Prop :=
  ∃ between, (write posting loop number).run world = (.ok kept, between) ∧
    (collect loop.mailbox).run between = (.ok events, after)

/-- The other part of a step: the events are noted, and if there are any, the view is rendered again. -/
def answer (posting : Posting H) (number : Nat) (events : List ChangeEvent) : Rendering H Unit := do
  receive number events
  unless events.isEmpty do render posting

/-- A step is its first part and then the other one. -/
theorem Delivers.ending_step {number : Nat} {kept : Bool} {events : List ChangeEvent}
    {loop : RenderLoop} {world after : World H}
    (delivers : Delivers posting number kept events loop world after) :
    Rendering.ending (step posting number) loop world =
      Rendering.ending (answer posting number events)
        (if kept then loop else loop.countSkippedWrite) after := by
  obtain ⟨between, written, collected⟩ := delivers
  rw [step, Rendering.ending_bind_ok Rendering.ending_get,
    Rendering.ending_bind_ok (Rendering.ending_lift written)]
  cases kept with
  | true => exact Rendering.ending_bind_ok (Rendering.ending_lift collected)
  | false =>
    refine (Rendering.ending_bind_ok (Rendering.ending_modify countSkippedWrite)).trans ?_
    exact Rendering.ending_bind_ok (Rendering.ending_lift collected)

/-- What a step does. Its write is left out, or nobody waits for it, or all who wait have fired and the
view is rendered again. -/
inductive Stepped (posting : Posting H) (number : Nat) (counter : Counter)
    (waiting : List SessionId) (loop : RenderLoop) (world : World H) (after : RenderLoop)
    (left : World H) : Prop where
  | leftOut (skipped : loop.config.equalityGated = true ∧ counter.written number = counter)
      (counted : after = loop.countSkippedWrite)
      (attended : after.Attended posting counter waiting [] left)
      (fired : world.tracker.AllFired left.tracker [])
  | unseen (kept : ¬ (loop.config.equalityGated = true ∧ counter.written number = counter))
      (unshown : Counter.writtenKey number ∉ loop.config.mode.keys) (same : after = loop)
      (attended : after.Attended posting (counter.written number) waiting [] left)
      (fired : world.tracker.AllFired left.tracker [])
  | shown (kept : ¬ (loop.config.equalityGated = true ∧ counter.written number = counter))
      (shown : Counter.writtenKey number ∈ loop.config.mode.keys) {between : World H}
      (fired : world.tracker.AllFired between.tracker waiting)
      (rendered : Rendered posting (counter.written number) [] (loop.noted waiting.length) between
        after left)

section Steps
variable {loop : RenderLoop} {world : World H} {counter : Counter} {waiting : List SessionId}
  {earlier : String} {config : RenderConfig} {course : RenderCourse}

private theorem ending_put (text : String) :
    Rendering.ending (put text : Rendering H Unit) loop world =
      (.ok (if (loop.sink.write text).1 = true then .ok () else .error (.output "writer full"),
        { loop with sink := (loop.sink.write text).2 }), world) := by
  rw [put, Rendering.ending_bind_ok Rendering.ending_get]
  rcases loop.sink.write text with ⟨_ | _, sink⟩ <;> rfl

theorem put_leads (text : String) {broken : RenderLoop → World H → Prop}
    (cut : ∀ sink, broken { loop with sink } world) :
    Rendering.Leads (put text : Rendering H Unit) loop world broken
      (fun _ after left => left = world ∧ ∃ sink : Sink, sink.text = loop.sink.text ++ text ∧
        after = { loop with sink }) := by
  refine ⟨_, _, _, ending_put text, (loop.sink.room_write text).mpr, ?_⟩
  by_cases complete : (loop.sink.write text).1 = true
  · rw [if_pos complete]
    exact ⟨rfl, _, loop.sink.text_write text complete, rfl⟩
  · rw [if_neg complete]
    refine ⟨rfl, fun free => complete ?_, cut _⟩
    exact loop.sink.complete_write text ((loop.sink.room_write text).mp free)

private theorem run_track_view (attended : loop.Attended posting counter waiting [] world) :
    ∃ left, (trackSession (Counter.view loop.counter loop.config.mode)
        ⟨some (posting.callback loop.mailbox), none⟩).run world =
          (.ok (.ok (counter.frame loop.config.mode, ⟨world.tracker.sessions.size⟩)), left) ∧
      loop.Attended posting counter (waiting ++ [⟨world.tracker.sessions.size⟩]) [] left ∧
      world.tracker.Opened left.tracker := by
  have held : world.recordingAnew.counters[loop.counter.index]? = some counter := attended.held
  have inside := Counter.run_view held loop.config.mode
  have recorded := run_record_gained rfl inside
  have shown : loop.config.mode.keys ≠ [] := by cases loop.config.mode <;> simp [RenderMode.keys]
  obtain ⟨key, member⟩ := List.exists_mem_of_ne_nil _ shown
  refine ⟨_, Act.run_bind_ok (run_trackArmed recorded _), ⟨attended.held, attended.mail, ?_⟩, ?_⟩
  · exact attended.watched.tracked shown
  · exact World.opened_tracked attended.watched.inStep (List.mem_map_of_mem member)
      attended.watched.live _

theorem render_leads (follows : Follows posting earlier config course loop world)
    (attended : loop.Attended posting course.counter waiting [] world)
    (length : waiting.length = course.waiting) (regular : course.counter.Regular) :
    Rendering.Leads (render posting) loop world
      (Exhausted posting (course.rendered config.mode).tallies)
      (fun _ after left => Rendered posting course.counter waiting loop world after left ∧
        Follows posting earlier config (course.rendered config.mode) after left) := by
  obtain ⟨left, tracked, ⟨held, mail, watched⟩, opened⟩ := run_track_view attended
  obtain ⟨rfl⟩ := follows.config
  have tallies : (course.rendered loop.config.mode).tallies.words = loop.countRender.summary := by
    rw [RenderCourse.rendered, Tallies.words_rendered, ← follows.summary]
    rfl
  have number : UInt32.ofNat (course.tallies.renders + 1) = loop.countRender.summary.renders :=
    congrArg RenderSummary.renders tallies
  refine .of_bind_ok Rendering.ending_get rfl ?_
  refine .of_bind_ok (Rendering.ending_lift tracked) rfl ?_
  refine .of_bind_ok (Rendering.ending_modify countRender) rfl ?_
  refine .of_bind_ok Rendering.ending_get rfl ?_
  -- The session waits before its line is written, and it is left behind if there is no room.
  refine .bind (put_leads _ fun _ =>
    ⟨⟨course.counter, _, regular, held, mail, watched⟩, tallies.symm⟩) ?_
  rintro _ _ left ⟨rfl, sink, text, rfl⟩
  have rendered : Rendered posting course.counter waiting loop world
      { loop.countRender with sink, session := some ⟨world.tracker.sessions.size⟩ } left :=
    ⟨rfl, ⟨held, mail, watched⟩, opened, rfl, text, rfl⟩
  refine .of_ok (Rendering.ending_modify _) rfl
    ⟨rendered, rfl, ⟨_, ?_, rendered.attended⟩, ?_, tallies.symm⟩
  · simp [RenderCourse.rendered, length]
  · rw [RenderCourse.rendered, transcript_concat, ← String.append_assoc, ← follows.text, number]
    exact text

/-- The events that a write leaves in the mailbox, one from each session that waits for it. -/
def reports (loop : RenderLoop) (counter : Counter) (waiting : List SessionId) (key : Key) :
    List ChangeEvent :=
  if key ∈ loop.config.mode.keys
  then List.replicate waiting.length ⟨counter.registrar, key, .willChange⟩ else []

def told (loop : RenderLoop) (waiting : List SessionId) (key : Key) : List SessionId :=
  if key ∈ loop.config.mode.keys then waiting else []

def stillWaiting (loop : RenderLoop) (waiting : List SessionId) (key : Key) : List SessionId :=
  if key ∈ loop.config.mode.keys then [] else waiting

private theorem run_mutation (attended : loop.Attended posting counter waiting [] world) (key : Key)
    {change : Counter → Counter} (kept : (change counter).registrar = counter.registrar) :
    ∃ after, (withMutation posting.call counter.registrar key
        (Counter.update loop.counter change)).run world = (.ok (), after) ∧
      loop.Attended posting (change counter) (stillWaiting loop waiting key)
        (reports loop counter waiting key) after ∧
      world.tracker.AllFired after.tracker (told loop waiting key) := by
  obtain ⟨tracker, log, run, watched, fired⟩ :=
    withMutation_posting posting key loop.counter change attended.watched
  refine ⟨_, run, ⟨?_, ?_, kept ▸ watched⟩, fired⟩
  · simp [Array.getElem?_modify, attended.held]
  · simp [World.posted, Array.getElem?_modify, attended.mail, reports]

private theorem run_setter (attended : loop.Attended posting counter waiting [] world) (key : Key)
    (change : Counter → Counter) (kept : (change counter).registrar = counter.registrar)
    {always : Act H Unit} {ifChanged : Act H Bool}
    (first : always.run world = (withMutation posting.call counter.registrar key
      (Counter.update loop.counter change)).run world)
    (second : ifChanged.run world = (if change counter = counter then pure false else do
      withMutation posting.call counter.registrar key (Counter.update loop.counter change)
      return true : Act H Bool).run world) (gated : Bool) :
    (gated = true ∧ change counter = counter) ∧
        (setter gated always ifChanged).run world = (.ok false, world) ∨
      ¬ (gated = true ∧ change counter = counter) ∧
        ∃ after, (setter gated always ifChanged).run world = (.ok true, after) ∧
          loop.Attended posting (change counter) (stillWaiting loop waiting key)
            (reports loop counter waiting key) after ∧
          world.tracker.AllFired after.tracker (told loop waiting key) := by
  obtain ⟨after, mutated, written⟩ := run_mutation attended key kept
  cases gated with
  | false =>
    refine .inr ⟨by simp, after, ?_, written⟩
    exact Act.run_bind_ok (first.trans mutated)
  | true =>
    by_cases same : change counter = counter
    · rw [if_pos same] at second
      exact .inl ⟨⟨rfl, same⟩, second⟩
    · rw [if_neg same] at second
      exact .inr ⟨fun both => same both.2, after, second.trans (Act.run_bind_ok mutated), written⟩

private theorem setIfChanged_pure {α : Type} [DecidableEq α] {call : Call H}
    (registrar : RegistrarId) (key : Key) (here value : α) (write : α → Act H Unit) :
    setIfChanged call registrar key (· == ·) (pure here) write value =
      if here = value then pure false else do
        withMutation call registrar key (write value)
        return true := by
  have unfolded : setIfChanged call registrar key (· == ·) (pure here) write value =
      if (here == value) = true then pure false else do
        withMutation call registrar key (write value)
        return true := rfl
  rw [unfolded]
  simp only [beq_iff_eq]

/-- The write of a step is left out, or the counter holds what was written. -/
theorem run_write (attended : loop.Attended posting counter waiting [] world) (number : Nat) :
    (loop.config.equalityGated = true ∧ counter.written number = counter) ∧
        (write posting loop number).run world = (.ok false, world) ∨
      ¬ (loop.config.equalityGated = true ∧ counter.written number = counter) ∧
        ∃ after, (write posting loop number).run world = (.ok true, after) ∧
          loop.Attended posting (counter.written number)
            (stillWaiting loop waiting (Counter.writtenKey number))
            (reports loop counter waiting (Counter.writtenKey number)) after ∧
          world.tracker.AllFired after.tracker
            (told loop waiting (Counter.writtenKey number)) := by
  have peek := Counter.run_peek attended.held
  unfold write Counter.written Counter.writtenKey
  by_cases even : number % 2 = 0
  · simp only [if_pos even]
    refine run_setter attended Counter.countKey
      (fun counter => { counter with count := ((number / 4 : Nat) : Int) }) rfl
      (Act.run_bind_ok peek) ?_ loop.config.equalityGated
    have same : { counter with count := ((number / 4 : Nat) : Int) } = counter ↔
        counter.count = ((number / 4 : Nat) : Int) := by
      obtain ⟨_, _, _⟩ := counter
      simp [eq_comm]
    refine (Act.run_bind_ok peek).trans ?_
    simp only [setIfChanged_pure, same]
    rfl
  · simp only [if_neg even]
    refine run_setter attended Counter.nameKey
      (fun counter => { counter with name := "n" ++ toString (number / 4) }) rfl
      (Act.run_bind_ok peek) ?_ loop.config.equalityGated
    have same : { counter with name := "n" ++ toString (number / 4) } = counter ↔
        counter.name = "n" ++ toString (number / 4) := by
      obtain ⟨_, _, _⟩ := counter
      simp [eq_comm]
    refine (Act.run_bind_ok peek).trans ?_
    simp only [setIfChanged_pure, same]
    rfl

theorem run_collect {events : Mailbox}
    (attended : loop.Attended posting counter waiting events world) :
    ∃ after, (collect loop.mailbox).run world = (.ok events, after) ∧
      loop.Attended posting counter waiting [] after ∧ after.tracker = world.tracker := by
  have run : (collect loop.mailbox).run world = (.ok ((world.mailboxes[loop.mailbox.index]?).getD []),
      { world with mailboxes := world.mailboxes.modify loop.mailbox.index fun _ => [] }) := rfl
  rw [attended.mail] at run
  refine ⟨_, run, ⟨attended.held, ?_, attended.watched⟩, rfl⟩
  simp [Array.getElem?_modify, attended.mail]

private theorem exists_delivers (attended : loop.Attended posting counter waiting [] world)
    (number : Nat) :
    (loop.config.equalityGated = true ∧ counter.written number = counter) ∧
        (∃ after, Delivers posting number false [] loop world after ∧
          loop.Attended posting counter waiting [] after ∧
          world.tracker.AllFired after.tracker []) ∨
      ¬ (loop.config.equalityGated = true ∧ counter.written number = counter) ∧
        ∃ after, Delivers posting number true
            (reports loop counter waiting (Counter.writtenKey number)) loop world after ∧
          loop.Attended posting (counter.written number)
            (stillWaiting loop waiting (Counter.writtenKey number)) [] after ∧
          world.tracker.AllFired after.tracker
            (told loop waiting (Counter.writtenKey number)) := by
  rcases run_write attended number with ⟨skipped, run⟩ | ⟨kept, between, run, written, fired⟩
  · obtain ⟨after, collected, emptied, same⟩ := run_collect attended
    exact .inl ⟨skipped, after, ⟨world, run, collected⟩, emptied, same ▸ .nobody _⟩
  · obtain ⟨after, collected, emptied, same⟩ := run_collect written
    exact .inr ⟨kept, after, ⟨between, run, collected⟩, emptied, same ▸ fired⟩

private theorem ending_receive (number : Nat) (events : List ChangeEvent) (loop : RenderLoop)
    (world : World H) : ∃ log,
    Rendering.ending (receive number events) loop world =
      (.ok (.ok (), loop.noted events.length), { world with log }) := by
  induction events generalizing loop world with
  | nil =>
    have same : loop.noted 0 = loop := by simp [noted]
    exact ⟨world.log, by rw [List.length_nil, same]; rfl⟩
  | cons event rest ih =>
    obtain ⟨log, received⟩ := ih (countNotification loop)
      { world with log := world.log.push (.trace (.viewInvalidated number event.key)) }
    refine ⟨log, ?_⟩
    rw [receive, Rendering.ending_bind_ok (Rendering.ending_lift rfl),
      Rendering.ending_bind_ok (Rendering.ending_modify countNotification)]
    refine received.trans ?_
    have sum : loop.countNotification.noted rest.length = loop.noted (event :: rest).length := by
      rw [noted, noted, List.length_cons, Nat.add_comm, UInt32.ofNat_add, ← UInt32.add_assoc]
      rfl
    rw [sum]

private theorem answer_leads {events : Mailbox} (some : events ≠ []) (number : Nat)
    (follows : Follows posting earlier config course loop world)
    (attended : loop.Attended posting course.counter [] [] world)
    (nobody : course.waiting = 0) (regular : course.counter.Regular) :
    let noted := { course with
      tallies.notifications := course.tallies.notifications + events.length }
    Rendering.Leads (answer posting number events) loop world
      (Exhausted posting (noted.rendered config.mode).tallies)
      (fun _ after left => (∃ between : World H, between.tracker = world.tracker ∧
          Rendered posting course.counter [] (loop.noted events.length) between after left) ∧
        Follows posting earlier config (noted.rendered config.mode) after left) := by
  intro noted
  obtain ⟨log, received⟩ := ending_receive number events loop world
  refine .of_bind_ok received rfl ?_
  rw [if_neg (by simpa using some)]
  have attended : (loop.noted events.length).Attended posting course.counter [] []
      { world with log } := ⟨attended.held, attended.mail, attended.watched⟩
  have summary : (loop.noted events.length).summary = noted.tallies.words := by
    rw [RenderLoop.noted, follows.summary, Tallies.words, Tallies.words, UInt32.ofNat_add]
  have reached : Follows posting earlier config noted (loop.noted events.length)
      { world with log } :=
    ⟨follows.config, ⟨[], nobody.symm, attended⟩, follows.text, summary⟩
  refine (render_leads reached attended nobody.symm regular).mono ?_
  rintro _ last left ⟨rendered, follows⟩
  exact ⟨⟨{ world with log }, rfl, rendered⟩, follows⟩

/-- A step delivers at most one event for each session that waits, and takes the application to the next
place of its course. -/
theorem step_leads (follows : Follows posting earlier config course loop world)
    (attended : loop.Attended posting course.counter waiting [] world)
    (length : waiting.length = course.waiting) (fresh : course.Fresh config.mode) (number : Nat) :
    ∃ kept events between, Delivers posting number kept events loop world between ∧
      events.length ≤ waiting.length ∧
      (course.next config number).tallies = course.tallies.next kept events ∧
      Rendering.Leads (step posting number) loop world
        (Exhausted posting (course.next config number).tallies)
        (fun _ after left => Stepped posting number course.counter waiting loop world after left ∧
          Follows posting earlier config (course.next config number) after left) := by
  obtain rfl := follows.config
  rcases exists_delivers attended number with
    ⟨skipped, between, delivers, emptied, fired⟩ | ⟨kept, between, delivers, emptied, fired⟩
  · rw [RenderCourse.next, if_pos skipped]
    have last : loop.countSkippedWrite.Attended posting course.counter waiting [] between :=
      ⟨emptied.held, emptied.mail, emptied.watched⟩
    refine ⟨false, [], between, delivers, Nat.zero_le _, rfl, ?_⟩
    refine .of_ok delivers.ending_step rfl ⟨.leftOut skipped rfl last fired, ?_⟩
    refine ⟨rfl, ⟨waiting, length, last⟩, follows.text, ?_⟩
    rw [countSkippedWrite, follows.summary, Tallies.words, Tallies.words, UInt32.ofNat_add]
    rfl
  · rw [RenderCourse.next, if_neg kept]
    have regular := fresh.regular.written number
    by_cases shown : Counter.writtenKey number ∈ loop.config.mode.keys
    · -- Somebody waits, so there is an event and the view is rendered again.
      simp only [stillWaiting, reports, told, if_pos shown] at delivers emptied fired
      obtain ⟨events, count, delivers⟩ : ∃ events, events.length = course.waiting ∧
          Delivers posting number true events loop world between :=
        ⟨_, List.length_replicate.trans length, delivers⟩
      have some : events ≠ [] := List.ne_nil_of_length_pos (count ▸ fresh.waits)
      have reached : Follows posting earlier loop.config { course with
          counter := course.counter.written number, waiting := 0 } loop between :=
        ⟨rfl, ⟨[], rfl, emptied⟩, follows.text, follows.summary⟩
      have answered := answer_leads some number reached emptied rfl regular
      rw [count] at answered
      rw [if_pos shown]
      refine ⟨true, events, between, delivers, (count.trans length.symm).le, ?_, ?_⟩
      · simp [RenderCourse.rendered, Tallies.rendered, Tallies.next, count, some]
      · refine .of_eq delivers.ending_step rfl (answered.mono ?_)
        rintro _ last left ⟨⟨between, same, rendered⟩, follows⟩
        exact ⟨.shown kept shown (same ▸ fired) (length ▸ rendered), follows⟩
    · simp only [stillWaiting, reports, told, if_neg shown] at delivers emptied fired
      rw [if_neg shown]
      refine ⟨true, [], between, delivers, Nat.zero_le _, rfl, ?_⟩
      refine .of_ok delivers.ending_step rfl ⟨.unseen kept shown rfl emptied fired, ?_⟩
      exact ⟨rfl, ⟨waiting, length, emptied⟩, follows.text, follows.summary⟩

end Steps
end RenderLoop
end ChangeTracking
