import CgwFota.Properties.Commands
import CgwFota.Properties.Lifecycle

/-!
# No message stays behind

Where the workers go on, every message that was taken into the queue is met in the end, whatever the
caller does meanwhile.

## Main results

* `hand_until_met`: a message in the hands of a worker stays there until it is met.
* `gone_of_queue`: a message leaves the queue.
* `messages_met`: every message that was taken into the queue is met in the end.

## Proof strategy

Both halves are arguments by a measure under fairness. In the hands of a worker it is what the
worker has left to do with the message; in the queue it is the place of the message and then the
work of the first worker, lexicographically. Steps of anybody else leave the measure alone.
-/
namespace CgwFota.Daemon

open Interleaving Transport

variable [EnvelopeWire] {parse : Inventory.Bytes → Option ControlCommand}
  {cfg : SomeIpTransportConfig} {businessTrigger : Bool} {s s' : FotaDaemon} {i : Nat} {o : Offer}

/-! ### What a step does to one worker -/

omit [EnvelopeWire] in
theorem inHand_of {w : Worker} (here : s.downlink.workers[i]? = some w) :
    s.inHand i = w.hand := by
  unfold FotaDaemon.inHand
  rw [here]
  rfl

/-- Nobody else moves a worker that has something to do, or its list. -/
theorem Kept.worker_stays (kept : Kept cfg s) {a : DaemonAction}
    (moved : s.step cfg businessTrigger parse a = some s') {w : Worker}
    (here : s.downlink.workers[i]? = some w) (busy : w ≠ .exited)
    (work : w = .waiting → s.downlink.downlinkQueue ≠ []) (other : ¬(Thread.worker i).acts a) :
    s'.downlink.workers[i]? = some w ∧ s'.targets i = s.targets i := by
  constructor
  -- the worker itself, and then its list of handlers
  · rcases downlink_of_step moved with same | ⟨b, stepped, origin⟩
    · exact same ▸ here
    · refine kept.sound.worker_stays stepped here busy work ?_ ?_
      all_goals
        rintro rfl
        rcases origin with rfl | loud
        · exact other rfl
        · exact loud trivial
  -- the other threads have lists of their own
  · cases a with
    | start =>
      obtain ⟨-, rfl⟩ := of_guarded moved
      unfold FotaDaemon.start
      split <;> rfl
    | stop =>
      obtain ⟨-, rfl⟩ := of_guarded moved
      unfold FotaDaemon.stop
      split <;> rfl
    | threw | wake timedOut =>
      obtain ⟨-, rfl⟩ := of_guarded moved
      rfl
    | timer =>
      obtain ⟨t, t', mutex, -, rfl, -⟩ := timerLoop_cases moved
      rfl
    | caller => rw [(advance_lists moved).1]
    | lookUp j =>
      obtain ⟨_, _, -, -, -, rfl⟩ := lookUp_cases moved
      exact if_neg other
    | handle j now =>
      obtain ⟨_, _, _, -, -, rfl⟩ := handle_cases moved
      exact if_neg other
    | downlink a =>
      obtain ⟨-, d, stepped, ⟨-, rfl⟩ | ⟨j, rfl, -, rfl⟩⟩ := transportStep_cases moved
      · rfl
      · exact if_neg other

/-- What a worker does with a message is less than before. -/
theorem busy_nearer (wired : Wired s) (hand : s.inHand i = some o) {a : DaemonAction}
    (moved : s.step cfg businessTrigger parse a = some s') (acts : (Thread.worker i).acts a) :
    s'.weight i < s.weight i ∧ (s'.inHand i = some o ∨ o ∈ s'.downlink.dispatched) := by
  obtain ⟨here, there⟩ := inHand_some hand
  cases a with
  -- these are steps of others
  | start | stop | caller | threw | timer | wake timedOut => exact acts.elim
  | lookUp j =>
    cases acts
    obtain ⟨o', slots, hand', fresh, few, rfl⟩ := lookUp_cases moved
    have one := wired.slots_le o'.msg
    rw [← few] at one
    refine ⟨?_, .inl hand⟩
    simp only [FotaDaemon.weight, here, fresh, if_true]
    omega
  -- one handler less to call
  | handle j now =>
    cases acts
    obtain ⟨o', slot, rest, hand', due, rfl⟩ := handle_cases moved
    refine ⟨?_, .inl hand⟩
    simp [FotaDaemon.weight, here, due]
  | downlink a =>
    obtain ⟨-, d, stepped, ⟨other, rfl⟩ | ⟨j, rfl, due, rfl⟩⟩ := transportStep_cases moved
    -- a worker with a message does not take another one and does not leave
    · cases a with
      | receive | enqueue | start | refuse | drain | join | finish => exact acts.elim
      | dispatch j => exact absurd rfl (other j)
      | dequeue j =>
        cases acts
        obtain ⟨_, _, -, waits, -⟩ := Downlink.dequeue_cases stepped
        rw [here] at waits
        cases waits
      | exit j =>
        cases acts
        obtain ⟨-, -, waits, -⟩ := Downlink.exit_cases stepped
        rw [here] at waits
        cases waits
    -- the message is dispatched
    · cases acts
      obtain ⟨o', here', rfl⟩ := Downlink.dispatch_cases stepped
      rw [here] at here'
      cases here'
      refine ⟨?_, .inr (by simp)⟩
      simp [FotaDaemon.weight, here, due, List.getElem?_set_self there]

/-- What was met stays met. -/
theorem met_grows {a : DaemonAction} (moved : s.step cfg businessTrigger parse a = some s')
    (met : o ∈ s.met) : o ∈ s'.met := by
  -- most steps leave both lists
  have same : s'.handled = s.handled → s'.unheard = s.unheard → o ∈ s'.met := by
    intro handled unheard
    unfold FotaDaemon.met
    rw [handled, unheard]
    exact met
  cases a with
  | start =>
    obtain ⟨-, rfl⟩ := of_guarded moved
    unfold FotaDaemon.start at *
    split <;> exact met
  | stop =>
    obtain ⟨-, rfl⟩ := of_guarded moved
    unfold FotaDaemon.stop at *
    split <;> exact met
  | threw | wake timedOut =>
    obtain ⟨-, rfl⟩ := of_guarded moved
    exact met
  | timer =>
    obtain ⟨t, t', mutex, -, rfl, -⟩ := timerLoop_cases moved
    exact met
  | caller => exact same (advance_lists moved).2.1 (advance_lists moved).2.2
  | lookUp j =>
    obtain ⟨_, _, -, -, -, rfl⟩ := lookUp_cases moved
    -- a message that is for nobody is added at the end
    rcases List.mem_append.mp met with handled | unheard
    · exact List.mem_append_left _ handled
    · refine List.mem_append_right _ ?_
      rw [List.map_append]
      exact List.mem_append_left _ unheard
  | handle j now =>
    obtain ⟨_, _, _, -, -, rfl⟩ := handle_cases moved
    -- so is one that was handed over
    rcases List.mem_append.mp met with handled | unheard
    · refine List.mem_append_left _ ?_
      rw [List.map_append]
      exact List.mem_append_left _ handled
    · exact List.mem_append_right _ unheard
  | downlink a =>
    obtain ⟨-, d, stepped, ⟨-, rfl⟩ | ⟨j, rfl, -, rfl⟩⟩ := transportStep_cases moved
    · exact met
    · exact met

/-! ### In the hands of a worker -/

section Run

variable {run : Run (FotaDaemon.step cfg businessTrigger parse) {}} {n : Nat}

/-- A message in the hands of a worker stays there until it is met. -/
theorem hand_until_met (some_worker : 1 ≤ cfg.downlinkWorkers)
    (hand : (run.state n).inHand i = some o) :
    ∀ m ≥ n, (run.state m).inHand i = some o ∨ o ∈ (run.state m).met := by
  intro m later
  -- by induction on the time that passes
  induction m, later using Nat.le_induction with
  | base => exact .inl hand
  | succ m later ih =>
    cases taken : run.action m with
    | none =>
      rw [run.still m taken]
      exact ih
    | some a =>
      have moved := run.moved m a taken
      rcases ih with holds | met
      · obtain ⟨kept, -⟩ := Heard.reach some_worker (run.reach m)
        obtain ⟨-, heard⟩ := Heard.reach some_worker (run.reach (m + 1))
        obtain ⟨here, -⟩ := inHand_some holds
        -- a step of the worker itself brings the message on, a step of anybody else leaves it
        by_cases acts : (Thread.worker i).acts a
        · rcases (busy_nearer kept.wired holds moved acts).2 with holds | done
          · exact .inl holds
          · exact .inr ((heard.met o).mpr (.inl done))
        · have stays := (kept.worker_stays moved here (by simp) (by simp) acts).1
          exact .inl (inHand_of stays)
      · exact .inr (met_grows moved met)

/-- A worker that goes on meets what it has in hand. -/
theorem met_of_hand (some_worker : 1 ≤ cfg.downlinkWorkers)
    (fair : run.FairTo (Thread.worker i).acts) (hand : (run.state n).inHand i = some o) :
    ∃ m ≥ n, o ∈ (run.state m).met := by
  let goal : FotaDaemon → Prop := fun s => s.targets i = some [] ∨ s.inHand i = none
  -- there is always a step it could take
  have enabled : ∀ m, ¬goal (run.state m) → ∃ a s', (Thread.worker i).acts a ∧
      (run.state m).step cfg businessTrigger parse a = some s' := by
    intro m busy
    obtain ⟨o', hand⟩ := Option.ne_none_iff_exists'.mp fun idle => busy (.inr idle)
    exact busy_enabled (inHand_some hand).1
  -- and each step of its own is one less to take
  have nearer : ∀ m a, ¬goal (run.state m) → run.action m = some a →
      goal (run.state (m + 1)) ∨ (run.state (m + 1)).weight i < (run.state m).weight i ∨
        ¬(Thread.worker i).acts a ∧ (run.state (m + 1)).weight i = (run.state m).weight i ∧
          () = () := by
    intro m a busy taken
    obtain ⟨o', hand⟩ := Option.ne_none_iff_exists'.mp fun idle => busy (.inr idle)
    obtain ⟨kept, -⟩ := Heard.reach some_worker (run.reach m)
    have moved := run.moved m a taken
    by_cases acts : (Thread.worker i).acts a
    · exact .inr (.inl (busy_nearer kept.wired hand moved acts).1)
    · obtain ⟨here, -⟩ := inHand_some hand
      obtain ⟨stays, targets⟩ := kept.worker_stays moved here (by simp) (by simp) acts
      exact .inr (.inr ⟨acts, weight_eq (stays.trans here.symm) targets, rfl⟩)
  -- Again and again the worker is through with what it has, or has nothing.
  obtain ⟨m, later, through⟩ := Run.reaches Nat.lt_wfRel.wf goal (·.weight i)
    (fun _ : Unit => (Thread.worker i).acts) (fun _ => ()) (fun _ => fair) enabled nearer n
  rcases hand_until_met some_worker hand m later with holds | met
  · obtain ⟨-, heard⟩ := Heard.reach some_worker (run.reach m)
    have due := through.resolve_right (by simp [holds])
    exact ⟨m, later, (heard.met o).mpr (.inr ⟨i, holds, due⟩)⟩
  · exact ⟨m, later, met⟩

/-! ### In the queue -/

/-- Whatever happens, a message in the queue comes nearer to its front or stays where it is. -/
theorem queue_nearer (accounted : s.downlink.Accounted cfg) (queued : o ∈ s.downlink.downlinkQueue)
    {a : DaemonAction} (moved : s.step cfg businessTrigger parse a = some s') :
    o ∉ s'.downlink.downlinkQueue ∨
      s'.downlink.downlinkQueue.idxOf o < s.downlink.downlinkQueue.idxOf o ∨
      (∀ j, a ≠ .downlink (.dequeue j)) ∧
        s'.downlink.downlinkQueue.idxOf o = s.downlink.downlinkQueue.idxOf o := by
  -- only a worker that takes a message moves the queue
  by_cases takes : ∃ j, a = .downlink (.dequeue j)
  · obtain ⟨j, rfl⟩ := takes
    have stepped : s.transportStep cfg (.dequeue j) = some s' := moved
    obtain ⟨-, d, taken, ⟨-, rfl⟩ | ⟨_, ⟨⟩, -⟩⟩ := transportStep_cases stepped
    obtain ⟨front, rest, queue, -, rfl⟩ := Downlink.dequeue_cases taken
    have once := (List.nodup_append.mp accounted.nodup).2.1
    rw [queue] at once ⊢
    by_cases same : front = o
    · exact .inl (same ▸ (List.nodup_cons.mp once).1)
    · refine .inr (.inl ?_)
      rw [List.idxOf_cons_ne _ same]
      exact Nat.lt_succ_self _
  -- a callback may push others out, but what stays does not fall back
  · refine .inr (.inr ⟨fun j here => takes ⟨j, here⟩, ?_⟩)
    rcases downlink_of_step moved with same | ⟨b, stepped, origin⟩
    · rw [same]
    · obtain ⟨more, longer⟩ := Downlink.queue_stays stepped (by
        rintro j rfl
        rcases origin with here | loud
        · exact takes ⟨j, here⟩
        · exact loud trivial)
      rw [longer]
      exact List.idxOf_append_of_mem queued

omit [EnvelopeWire] in
/-- While there is a message in the queue, the first worker has not left. -/
theorem Kept.first_worker (some_worker : 1 ≤ cfg.downlinkWorkers) (kept : Kept cfg s)
    (full : s.downlink.downlinkQueue ≠ []) :
    ∃ w, s.downlink.workers[0]? = some w ∧ w ≠ .exited := by
  have manned := kept.sound.manned
  have crew : s.downlink.workers.length = cfg.downlinkWorkers := by
    rcases manned.crew with crew | ⟨-, nothing, -⟩
    · exact crew
    · exact absurd nothing full
  obtain ⟨w, here⟩ : ∃ w, s.downlink.workers[0]? = some w :=
    ⟨_, List.getElem?_eq_getElem (by omega)⟩
  refine ⟨w, here, ?_⟩
  rintro rfl
  exact full (manned.left (List.mem_of_getElem? here)).2

/-- A message leaves the queue: the first worker would take it, and be done with others before. -/
theorem gone_of_queue (some_worker : 1 ≤ cfg.downlinkWorkers)
    (fair : run.FairTo (Thread.worker 0).acts) (o : Offer) (n : Nat) :
    ∃ m ≥ n, o ∉ (run.state m).downlink.downlinkQueue := by
  let rank : FotaDaemon → Nat × Nat := fun s => (s.downlink.downlinkQueue.idxOf o, s.weight 0)
  have kept : ∀ m, Kept cfg (run.state m) := fun m => (Heard.reach some_worker (run.reach m)).1
  refine Run.reaches (WellFounded.prod_lex Nat.lt_wfRel.wf Nat.lt_wfRel.wf)
    (fun s => o ∉ s.downlink.downlinkQueue) rank (fun _ : Unit => (Thread.worker 0).acts)
    (fun _ => ()) (fun _ => fair) ?_ ?_ n
  -- the first worker is there, and can take or finish something
  · intro m queued
    have full := List.ne_nil_of_mem (not_not.mp queued)
    obtain ⟨w, here, alive⟩ := (kept m).first_worker some_worker full
    exact worker_enabled (fun nothing => absurd nothing full) here alive
  · intro m a queued taken
    have moved := run.moved m a taken
    have full := List.ne_nil_of_mem (not_not.mp queued)
    obtain ⟨w, here, alive⟩ := (kept m).first_worker some_worker full
    -- the message is gone, has come forward, or the queue is as it was
    rcases queue_nearer (kept m).sound.accounted (not_not.mp queued) moved with
      gone | nearer | ⟨others, same⟩
    · exact .inl gone
    · exact .inr (.inl (.left _ _ nearer))
    · by_cases acts : (Thread.worker 0).acts a
      · cases w with
        | exited => exact absurd rfl alive
        | waiting =>
          -- It can only take a message, and that comes under the cases before.
          have idle : (run.state m).inHand 0 = none := inHand_of here
          cases a with
          | start | stop | caller | threw | timer | wake timedOut => exact acts.elim
          | lookUp j =>
            cases acts
            obtain ⟨_, _, hand, -⟩ := lookUp_cases moved
            simp [idle] at hand
          | handle j now =>
            cases acts
            obtain ⟨_, _, _, hand, -⟩ := handle_cases moved
            simp [idle] at hand
          | downlink b =>
            obtain ⟨-, d, stepped, -⟩ := transportStep_cases moved
            cases b with
            | receive | enqueue | start | refuse | drain | join | finish => exact acts.elim
            | dequeue j => exact absurd rfl (others j)
            | dispatch j =>
              cases acts
              obtain ⟨_, busy, -⟩ := Downlink.dispatch_cases stepped
              rw [here] at busy
              cases busy
            | exit j =>
              cases acts
              exact absurd (Downlink.exit_cases stepped).1 full
        -- the first worker is busy: it has less to do than before
        | dispatching o' =>
          have less := (busy_nearer (kept m).wired (inHand_of here) moved acts).1
          exact .inr (.inl (Prod.Lex.right' _ same.le less))
      -- a step of others leaves the first worker as it is
      · obtain ⟨stays, targets⟩ := (kept m).worker_stays moved here alive (fun _ => full) acts
        exact .inr (.inr ⟨acts, Prod.ext same (weight_eq (stays.trans here.symm) targets), rfl⟩)

/-- What was taken into the queue stays on the list of it. -/
theorem enqueued_grows {a : DaemonAction} (moved : s.step cfg businessTrigger parse a = some s')
    (taken : o ∈ s.downlink.enqueued) : o ∈ s'.downlink.enqueued := by
  rcases downlink_of_step moved with same | ⟨b, stepped, -⟩
  -- a callback adds to the list, and nobody takes anything from it
  · rw [same]
    exact taken
  · cases b with
    | receive view now =>
      obtain ⟨-, same⟩ := of_guarded stepped
      rw [← same]
      unfold Downlink.receive
      split <;> exact taken
    | enqueue callback =>
      obtain ⟨msg, -, same⟩ := Option.map_eq_some_iff.mp stepped
      rw [← same]
      rcases Downlink.enqueue_cases cfg msg
          { s.downlink with pending := s.downlink.pending.eraseIdx callback } with
        ⟨-, same⟩ | ⟨-, -, same⟩ | ⟨-, -, same⟩
      · rw [same]
        exact taken
      · rw [same]
        exact taken
      · rw [same]
        exact List.mem_append_left _ taken
    | dequeue j =>
      obtain ⟨_, _, -, -, same⟩ := Downlink.dequeue_cases stepped
      exact same ▸ taken
    | dispatch j =>
      obtain ⟨_, -, same⟩ := Downlink.dispatch_cases stepped
      exact same ▸ taken
    | exit j =>
      obtain ⟨-, -, -, same⟩ := Downlink.exit_cases stepped
      exact same ▸ taken
    | start | refuse | drain | join | finish =>
      obtain ⟨-, same⟩ := of_guarded stepped
      exact same ▸ taken

theorem enqueued_stays (taken : o ∈ (run.state n).downlink.enqueued) :
    ∀ m ≥ n, o ∈ (run.state m).downlink.enqueued := by
  intro m later
  induction m, later using Nat.le_induction with
  | base => exact taken
  | succ m later ih =>
    cases acted : run.action m with
    | none =>
      rw [run.still m acted]
      exact ih
    | some a => exact enqueued_grows (run.moved m a acted) ih

end Run

/-! ### The daemon as a whole -/

/-- Where the workers go on, every message that was taken into the queue is met in the end: handed
to the handler, or for nobody on the way in or out. It does not matter whether the caller stops the
daemon meanwhile, and how often. -/
theorem messages_met (some_worker : 1 ≤ cfg.downlinkWorkers)
    (run : Run (FotaDaemon.step cfg businessTrigger parse) {})
    (fair : ∀ i, run.FairTo (Thread.worker i).acts) (n : Nat) :
    ∀ o ∈ (run.state n).downlink.enqueued, ∃ m ≥ n, o ∈ (run.state m).met := by
  intro o taken
  obtain ⟨m, later, gone⟩ := gone_of_queue some_worker (fair 0) o n
  have enqueued := enqueued_stays taken m later
  obtain ⟨kept, heard⟩ := Heard.reach some_worker (run.reach m)
  have there := kept.sound.accounted.once.mem_iff.mp enqueued
  -- the message is out of the queue or in it; it is dispatched, in hand, or leaves the queue
  rcases List.mem_append.mp there with out | queued
  · rcases List.mem_append.mp out with done | hand
    · exact ⟨m, later, (heard.met o).mpr (.inl done)⟩
    · obtain ⟨w, member, holds⟩ := List.mem_filterMap.mp hand
      obtain ⟨i, here⟩ := List.getElem?_of_mem member
      obtain ⟨k, after, met⟩ := met_of_hand some_worker (fair i) ((inHand_of here).trans holds)
      exact ⟨k, by omega, met⟩
  · exact absurd queued gone

omit [EnvelopeWire] in
/-- One message is met although the caller stops the daemon. -/
theorem messages_met_stopped :
    ∃ run : Run (@FotaDaemon.step commandWire {} false fun _ => some {}) {}, ∃ o m,
      o ∈ (run.state 9).downlink.downlinkQueue ∧ o ∈ (run.state m).met := by
  have ends : ((walk (@FotaDaemon.step commandWire {} false fun _ => some {}) {} oneCommand).any
      fun s => s.caller = .idle ∧ s.running = false) = true := by decide +kernel
  have waits : ((walk (@FotaDaemon.step commandWire {} false fun _ => some {}) {}
      (oneCommand.take 9)).any fun s => s.downlink.downlinkQueue.any
        fun o => o ∈ s.downlink.enqueued) = true := by decide +kernel
  obtain ⟨s, walked, holds⟩ := (Option.any_eq_true _ _).mp ends
  obtain ⟨idle, down⟩ := of_decide_eq_true holds
  have reach : Reach (@FotaDaemon.step commandWire {} false fun _ => some {}) (fun _ _ => True)
      {} s := Reach.walk .start (fun _ _ _ => trivial) walked
  have rest := (@Kept.reach commandWire {} false _ s (by decide) reach).atRest (by decide) idle down
  obtain ⟨mid, part, holds⟩ := (Option.any_eq_true _ _).mp waits
  obtain ⟨o, queued, taken⟩ := List.any_eq_true.mp holds
  let run := Run.through oneCommand s walked
  have there : run.state 9 = mid := by
    show (walk _ {} (oneCommand.take 9)).getD s = mid
    rw [part]
    rfl
  obtain ⟨m, -, met⟩ := @messages_met commandWire _ {} false (by decide) run
    (fun i => Run.through_fair walked fun a acts =>
      @AtRest.still commandWire {} false _ s rest idle (.worker i) a acts) 9 o
    (there ▸ of_decide_eq_true taken)
  exact ⟨run, o, m, there ▸ queued, met⟩

end CgwFota.Daemon
