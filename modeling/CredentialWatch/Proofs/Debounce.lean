import Mathlib
import CredentialWatch.Watch.Service
import CredentialWatch.Watch.Timeline

/-!
# One publication for each burst

A task keeps one flag and one timer, and yet it publishes once for each burst of relevant events,
one debounce interval after the last event of the burst. What carries the proof is that between two
polls the flag and the timer tell which event was the last one that no publication has followed.
-/
namespace CredentialWatch.Watch

/-- The times of a list that are the last one, or after which the next one comes later than the
debounce interval allows. -/
def lulls (debounce : Nat) (times : List Nat) : List Nat :=
  ((List.finRange times.length).filter fun i =>
    ∀ h : i.val + 1 < times.length, times[i] + debounce < times[i.val + 1]).map fun i => times[i]

theorem lulls_cons (debounce time : Nat) (times : List Nat) :
    lulls debounce (time :: times) =
      (if ∀ next ∈ times.head?, time + debounce < next then [time] else []) ++
        lulls debounce times := by
  have hhead : (∀ next ∈ times.head?, time + debounce < next) ↔
      ∀ h : 0 < times.length, time + debounce < times[0] := by
    cases times <;> simp
  simp only [lulls, List.length_cons, List.finRange_succ, List.filter_cons, List.filter_map, hhead]
  split <;> simp_all [Function.comp_def]

/-- A time that is followed by another one in time does not count. -/
theorem lulls_cons_cons {debounce time next : Nat} (times : List Nat) (h : next ≤ time + debounce) :
    lulls debounce (time :: next :: times) = lulls debounce (next :: times) := by
  rw [lulls_cons, if_neg (by simpa using h), List.nil_append]

theorem lulls_cons_late {debounce time : Nat} {times : List Nat}
    (h : ∀ next ∈ times, time + debounce < next) :
    lulls debounce (time :: times) = time :: lulls debounce times := by
  rw [lulls_cons, if_pos fun next hnext => h next (List.mem_of_mem_head? hnext)]
  rfl

/-- A time that another one follows exactly at the end of the interval does not count. -/
theorem notMem_lulls {debounce time : Nat} {times : List Nat} (hsorted : times.Pairwise (· ≤ ·))
    (hpos : 0 < debounce) (hnext : time + debounce ∈ times) : time ∉ lulls debounce times := by
  intro h
  obtain ⟨i, hi, rfl⟩ := List.mem_map.1 h
  obtain ⟨j, hj, heq⟩ := List.getElem_of_mem hnext
  simp only [List.mem_filter, List.mem_finRange, true_and, decide_eq_true_eq] at hi
  have hmono : ∀ a b : Nat, (ha : a < times.length) → (hb : b < times.length) → a ≤ b →
      times[a] ≤ times[b] := fun a b ha hb hab => hsorted.rel_get_of_le hab
  have hlt : i.val < j := by
    by_contra hle
    have := hmono j i hj i.isLt (by omega)
    simp only [Fin.getElem_fin] at heq
    omega
  have hgap := hi (by omega)
  have hle := hmono (i + 1) j (by omega) hj hlt
  omega

/-- The last of some times after others have come at `now`. -/
def lastOf (now : Nat) (last? : Option Nat) (here : List Nat) : Option Nat :=
  if here.isEmpty then last? else some now

/-- Of the times up to `now` that follow each other within the interval only the last one can
count. -/
theorem lulls_collapse {debounce now : Nat} {last? : Option Nat} {here : List Nat}
    (hlast : ∀ last ∈ last?, now ≤ last + debounce) (hhere : ∀ time ∈ here, time = now)
    (times : List Nat) :
    lulls debounce (last?.toList ++ (here ++ times)) =
      lulls debounce ((lastOf now last? here).toList ++ times) := by
  induction here generalizing last? with
  | nil => rfl
  | cons time rest ih =>
    obtain rfl : time = now := hhere time List.mem_cons_self
    have hskip : lulls debounce (last?.toList ++ (time :: rest ++ times)) =
        lulls debounce (time :: (rest ++ times)) := by
      cases last? with
      | none => rfl
      | some last => exact lulls_cons_cons _ (hlast last rfl)
    have hself : ∀ last ∈ some time, time ≤ last + debounce := by simp
    have hrest := ih hself fun other h => hhere other (List.mem_cons_of_mem _ h)
    rw [hskip]
    simpa [lastOf] using hrest

theorem length_splitBy_loop {α : Type*} (related : α → α → Bool) (rest : List α) (last : α)
    (run : List α) (runs : List (List α)) :
    (List.splitBy.loop related rest last run runs).length =
      (List.splitBy.loop related rest last [] []).length + runs.length := by
  induction rest generalizing last run runs with
  | nil => simp [List.splitBy.loop]; omega
  | cons first rest ih =>
    simp only [List.splitBy.loop]
    split
    · rw [ih first (last :: run) runs, ih first [last] []]
      simp
    · rw [ih first [] ((last :: run).reverse :: runs), ih first [] [[last].reverse]]
      simp only [List.length_cons, List.length_nil]
      omega

theorem length_splitBy_cons_cons {α : Type*} (related : α → α → Bool) (first second : α)
    (rest : List α) :
    ((first :: second :: rest).splitBy related).length =
      ((second :: rest).splitBy related).length + if related first second then 0 else 1 := by
  simp only [List.splitBy, List.splitBy.loop]
  split <;> rename_i h <;> rw [length_splitBy_loop] <;> simp [h]

/-- There are as many lulls as maximal runs of times with gaps within the debounce interval. -/
theorem length_lulls (debounce : Nat) (times : List Nat) :
    (lulls debounce times).length =
      (times.splitBy fun earlier later => later ≤ earlier + debounce).length := by
  induction times with
  | nil => rfl
  | cons time times ih =>
    rw [lulls_cons, List.length_append, ih]
    cases times with
    | nil => simp [List.splitBy, List.splitBy.loop]
    | cons next rest =>
      rw [length_splitBy_cons_cons]
      by_cases h : time + debounce < next
      · simp [h, Nat.not_le.2 h]
        omega
      · simp [h, Nat.not_lt.1 h]

namespace Task

/-- A task that nothing has stopped. -/
def running (id : Nat) (place : Place) (queue : List PlatformEvent) (pending : Bool)
    (deadline : Nat) : Task :=
  ⟨id, place, queue.map some, pending, deadline, false, .watching⟩

section Running

variable (debounce now id : Nat) (place : Place) (queue : List PlatformEvent) (pending : Bool)
  (deadline : Nat)

theorem foldl_receive (events : List PlatformEvent) :
    events.foldl receive (running id place queue pending deadline) =
      running id place (queue ++ events) pending deadline := by
  induction events generalizing queue with
  | nil => simp
  | cons event rest ih =>
    have hreceive : (running id place queue pending deadline).receive event =
        running id place (queue ++ [event]) pending deadline := by
      simp [receive, running]
    rw [List.foldl_cons, hreceive, ih, List.append_assoc, List.singleton_append]

theorem step_relevant {event : PlatformEvent} (h : event.concerns place) :
    (running id place (event :: queue) pending deadline).step debounce now =
      (.consumed, running id place queue true (now + debounce)) := by
  simp [step, running, State.isTerminal, h]

theorem step_irrelevant {event : PlatformEvent} (h : ¬ event.concerns place) :
    (running id place (event :: queue) pending deadline).step debounce now =
      (.consumed, running id place queue pending deadline) := by
  simp [step, running, State.isTerminal, h]

theorem step_due (h : deadline ≤ now) :
    (running id place [] true deadline).step debounce now =
      (.published, running id place [] false deadline) := by
  simp [step, running, State.isTerminal, h]

theorem step_early (h : ¬ (pending ∧ deadline ≤ now)) :
    ((running id place [] pending deadline).step debounce now).1 = .idle := by
  simp only [step, running, State.isTerminal, List.map_nil, h]
  rfl

/-- At one poll all events are taken up before the timer is looked at. -/
theorem settle_queue :
    (running id place queue pending deadline).settle debounce now =
      (running id place [] (pending || queue.any (·.concerns place))
        (if queue.any (·.concerns place) then now + debounce else deadline)).settle
          debounce now := by
  induction queue generalizing pending deadline with
  | nil => simp
  | cons event rest ih =>
    by_cases h : event.concerns place
    · rw [settle_consumed (step_relevant debounce now id place rest pending deadline h), ih]
      simp [h]
    · rw [settle_consumed (step_irrelevant debounce now id place rest pending deadline h), ih]
      simp [h]

theorem settle_due (h : deadline ≤ now) :
    (running id place [] true deadline).settle debounce now =
      (1, running id place [] false deadline) := by
  rw [settle_published (step_due debounce now id place deadline h),
    settle_idle (step_early debounce now id place false deadline (by simp))]

theorem settle_early (h : ¬ (pending ∧ deadline ≤ now)) :
    (running id place [] pending deadline).settle debounce now =
      (0, running id place [] pending deadline) :=
  settle_idle (step_early debounce now id place pending deadline h)

end Running

end Task

/-- The times at which relevant events arrive. -/
def relevantTimes (place : Place) (arrivals : List Arrival) : List Nat :=
  (arrivals.filter (·.event.concerns place)).map Arrival.time

theorem relevantTimes_append (place : Place) (left right : List Arrival) :
    relevantTimes place (left ++ right) =
      relevantTimes place left ++ relevantTimes place right := by
  simp [relevantTimes]

theorem exists_of_mem_relevantTimes {place : Place} {arrivals : List Arrival} {time : Nat}
    (h : time ∈ relevantTimes place arrivals) : ∃ arrival ∈ arrivals, arrival.time = time := by
  obtain ⟨arrival, hmem, rfl⟩ := List.mem_map.1 h
  exact ⟨arrival, List.mem_of_mem_filter hmem, rfl⟩

theorem any_concerns (place : Place) (arrivals : List Arrival) :
    (arrivals.map Arrival.event).any (·.concerns place) =
      !(relevantTimes place arrivals).isEmpty := by
  induction arrivals with
  | nil => rfl
  | cons first rest ih =>
    by_cases h : first.event.concerns place <;> simp_all [relevantTimes]

theorem lt_of_mem_dropWhile {now : Nat} {arrivals : List Arrival}
    (hsorted : (arrivals.map Arrival.time).Pairwise (· ≤ ·)) {arrival : Arrival}
    (h : arrival ∈ arrivals.dropWhile (·.time ≤ now)) : now < arrival.time := by
  induction arrivals with
  | nil => cases h
  | cons first rest ih =>
    obtain ⟨hfirst, hrest⟩ := List.pairwise_cons.1 hsorted
    by_cases hnow : first.time ≤ now
    · rw [List.dropWhile_cons_of_pos (by simpa using hnow)] at h
      exact ih hrest h
    · rw [List.dropWhile_cons_of_neg (by simpa using hnow)] at h
      rcases List.mem_cons.1 h with rfl | h
      · exact Nat.lt_of_not_le hnow
      · exact (Nat.lt_of_not_le hnow).trans_le (hfirst _ (List.mem_map_of_mem h))

/-- A task is polled in ascending order, whenever an event arrives and whenever its timer expires,
unless a relevant event sets the timer anew by then; `last?` is the time of the last relevant event
that no publication has followed. -/
structure Punctual (debounce : Nat) (place : Place) (polls : List Nat) (arrivals : List Arrival)
    (last? : Option Nat) : Prop where
  ascending : polls.Pairwise (· < ·)
  sorted : (arrivals.map Arrival.time).Pairwise (· ≤ ·)
  arrival : ∀ arrival ∈ arrivals, arrival.time ∈ polls
  deadline : ∀ time ∈ last?.toList ++ relevantTimes place arrivals, time + debounce ∈ polls ∨
    ∃ next ∈ relevantTimes place arrivals, time < next ∧ next ≤ time + debounce

namespace Punctual

variable {debounce now : Nat} {place : Place} {polls later : List Nat}
  {arrivals arrived rest : List Arrival} {last? : Option Nat}

theorem deadline_last (punctual : Punctual debounce place polls arrivals last?) {last : Nat}
    (h : last ∈ last?) : last + debounce ∈ polls ∨
      ∃ next ∈ relevantTimes place arrivals, last < next ∧ next ≤ last + debounce :=
  punctual.deadline last (List.mem_append_left _ (Option.mem_toList.2 h))

theorem relevant_mem (punctual : Punctual debounce place polls arrivals last?) {time : Nat}
    (h : time ∈ relevantTimes place arrivals) : time ∈ polls := by
  obtain ⟨arrival, hmem, rfl⟩ := exists_of_mem_relevantTimes h
  exact punctual.arrival arrival hmem

theorem eq_nil (punctual : Punctual debounce place [] arrivals last?) :
    arrivals = [] ∧ last? = none := by
  have hnone : arrivals = [] := List.eq_nil_iff_forall_not_mem.2 fun arrival h => by
    simpa using punctual.arrival arrival h
  subst hnone
  refine ⟨rfl, Option.eq_none_iff_forall_not_mem.2 fun last h => ?_⟩
  simpa [relevantTimes] using punctual.deadline_last h

theorem now_le (punctual : Punctual debounce place (now :: later) arrivals last?) {time : Nat}
    (h : time ∈ now :: later) : now ≤ time := by
  rcases List.mem_cons.1 h with rfl | h
  · exact le_rfl
  · exact ((List.pairwise_cons.1 punctual.ascending).1 time h).le

/-- The timer does not expire before the next poll. -/
theorem now_le_deadline (punctual : Punctual debounce place (now :: later) arrivals last?)
    {last : Nat} (h : last ∈ last?) : now ≤ last + debounce := by
  rcases punctual.deadline_last h with h | ⟨next, hnext, -, hle⟩
  · exact punctual.now_le h
  · exact (punctual.now_le (punctual.relevant_mem hnext)).trans hle

/-- What has arrived by a poll arrives at that very time. -/
theorem eq_now (punctual : Punctual debounce place (now :: later) (arrived ++ rest) last?)
    (harrived : ∀ arrival ∈ arrived, arrival.time ≤ now) {time : Nat}
    (h : time ∈ relevantTimes place arrived) : time = now := by
  obtain ⟨arrival, hmem, rfl⟩ := exists_of_mem_relevantTimes h
  exact (harrived arrival hmem).antisymm
    (punctual.now_le (punctual.arrival arrival (List.mem_append_left _ hmem)))

/-- The first poll after what has arrived is taken up. -/
theorem take (punctual : Punctual debounce place (now :: later) (arrived ++ rest) last?)
    (harrived : ∀ arrival ∈ arrived, arrival.time ≤ now) :
    Punctual debounce place (now :: later) rest
      (lastOf now last? (relevantTimes place arrived)) where
  ascending := punctual.ascending
  sorted := by
    have hsorted := punctual.sorted
    rw [List.map_append] at hsorted
    exact (List.pairwise_append.1 hsorted).2.1
  arrival := fun arrival h => punctual.arrival arrival (List.mem_append_right _ h)
  deadline := by
    intro time h
    have hcases : time ∈ last?.toList ∧ relevantTimes place arrived = [] ∨
        time ∈ relevantTimes place arrived ++ relevantTimes place rest := by
      rcases List.mem_append.1 h with h | h
      · rw [lastOf] at h
        split at h
        · rename_i hempty
          exact .inl ⟨h, List.isEmpty_iff.1 hempty⟩
        · rename_i hnonempty
          obtain ⟨first, hfirst⟩ := List.exists_mem_of_ne_nil _ (by simpa using hnonempty)
          obtain rfl : time = first := by
            rw [punctual.eq_now harrived hfirst]
            simpa using h
          exact .inr (List.mem_append_left _ hfirst)
      · exact .inr (List.mem_append_right _ h)
    have hold : time ∈ last?.toList ++ relevantTimes place (arrived ++ rest) := by
      rw [relevantTimes_append]
      exact hcases.elim (fun h => List.mem_append_left _ h.1) (List.mem_append_right _)
    refine (punctual.deadline time hold).imp_right fun ⟨next, hnext, hlt, hle⟩ => ?_
    rw [relevantTimes_append] at hnext
    refine ⟨next, (List.mem_append.1 hnext).resolve_left fun hnext => ?_, hlt, hle⟩
    rcases hcases with ⟨-, hnone⟩ | htime
    · simp [hnone] at hnext
    · have hnow := punctual.now_le (punctual.relevant_mem (relevantTimes_append .. ▸ htime))
      rw [punctual.eq_now harrived hnext] at hlt
      omega

/-- The polls after the first one, when all that has arrived is taken up and nothing is due any
more. -/
theorem tail {left? : Option Nat} (punctual : Punctual debounce place (now :: later) rest last?)
    (hrest : ∀ arrival ∈ rest, now < arrival.time)
    (hleft : ∀ last ∈ left?, last ∈ last? ∧ now < last + debounce) :
    Punctual debounce place later rest left? where
  ascending := (List.pairwise_cons.1 punctual.ascending).2
  sorted := punctual.sorted
  arrival := fun arrival h =>
    (List.mem_cons.1 (punctual.arrival arrival h)).resolve_left (hrest arrival h).ne'
  deadline := by
    intro time h
    have hopen : time ∈ last?.toList ++ relevantTimes place rest ∧ now < time + debounce := by
      rcases List.mem_append.1 h with h | h
      · obtain ⟨hlast, hlt⟩ := hleft time (Option.mem_toList.1 h)
        exact ⟨List.mem_append_left _ (Option.mem_toList.2 hlast), hlt⟩
      · obtain ⟨arrival, hmem, rfl⟩ := exists_of_mem_relevantTimes h
        exact ⟨List.mem_append_right _ h, Nat.lt_add_right _ (hrest arrival hmem)⟩
    exact (punctual.deadline time hopen.1).imp_left fun h =>
      (List.mem_cons.1 h).resolve_left hopen.2.ne'

end Punctual

namespace Task

variable {debounce now : Nat} (id : Nat) {place : Place} {polls later : List Nat}
  {arrivals rest : List Arrival} {last? : Option Nat} {deadline : Nat}

/-- What a poll leaves of a task that has taken up all that has arrived, and publishes. -/
theorem publications_look (punctual : Punctual debounce place (now :: later) rest last?)
    (hdeadline : ∀ last ∈ last?, deadline = last + debounce)
    (hrest : ∀ arrival ∈ rest, now < arrival.time)
    (hlater : ∀ left?, Punctual debounce place later rest left? →
      (∀ last ∈ left?, deadline = last + debounce) →
      publications debounce later rest (running id place [] left?.isSome deadline) =
        (lulls debounce (left?.toList ++ relevantTimes place rest)).map (· + debounce)) :
    let (published, after) := (running id place [] last?.isSome deadline).settle debounce now
    List.replicate published now ++ publications debounce later rest after =
      (lulls debounce (last?.toList ++ relevantTimes place rest)).map (· + debounce) := by
  by_cases hlook : last?.isSome ∧ deadline ≤ now
  · obtain ⟨last, rfl⟩ := Option.isSome_iff_exists.1 hlook.1
    have hdue : last + debounce = now := by
      have hset := hdeadline last rfl
      have hge : now ≤ last + debounce := punctual.now_le_deadline rfl
      omega
    have hlull : ∀ time ∈ relevantTimes place rest, last + debounce < time := by
      intro time h
      obtain ⟨arrival, hmem, rfl⟩ := exists_of_mem_relevantTimes h
      exact hdue ▸ hrest arrival hmem
    have hnext := hlater none (punctual.tail hrest (by simp)) (by simp)
    simp only [Option.isSome_some, settle_due _ _ _ _ _ hlook.2]
    simpa [lulls_cons_late hlull, hdue] using hnext
  · have hleft : ∀ last ∈ last?, last ∈ last? ∧ now < last + debounce := by
      intro last h
      have hsome : last?.isSome := Option.isSome_iff_exists.2 ⟨last, h⟩
      have hset := hdeadline last h
      exact ⟨h, by_contra fun hlt => hlook ⟨hsome, by omega⟩⟩
    rw [settle_early _ _ _ _ _ _ hlook]
    simpa using hlater last? (punctual.tail hrest hleft) hdeadline

/-- What a task publishes from a poll on. -/
theorem publications_running (punctual : Punctual debounce place polls arrivals last?)
    (hdeadline : ∀ last ∈ last?, deadline = last + debounce) :
    publications debounce polls arrivals (running id place [] last?.isSome deadline) =
      (lulls debounce (last?.toList ++ relevantTimes place arrivals)).map (· + debounce) := by
  induction polls generalizing arrivals last? deadline with
  | nil =>
    obtain ⟨rfl, rfl⟩ := punctual.eq_nil
    rfl
  | cons now later ih =>
    have hsplit := arrivals.takeWhile_append_dropWhile (p := (·.time ≤ now))
    have hrest : ∀ arrival ∈ arrivals.dropWhile (·.time ≤ now), now < arrival.time :=
      fun _ => lt_of_mem_dropWhile punctual.sorted
    have harrived : ∀ arrival ∈ arrivals.takeWhile (·.time ≤ now), arrival.time ≤ now :=
      fun _ h => by simpa using List.mem_takeWhile_imp h
    rw [publications]
    generalize arrivals.takeWhile (·.time ≤ now) = arrived at hsplit harrived ⊢
    generalize arrivals.dropWhile (·.time ≤ now) = rest at hsplit hrest ⊢
    subst hsplit
    have htimes := lulls_collapse (fun _ => punctual.now_le_deadline)
      (fun _ => punctual.eq_now harrived) (relevantTimes place rest)
    have hflag : (last?.isSome || !(relevantTimes place arrived).isEmpty) =
        (lastOf now last? (relevantTimes place arrived)).isSome := by
      cases h : (relevantTimes place arrived).isEmpty <;> simp [lastOf, h]
    have htimer : ∀ last ∈ lastOf now last? (relevantTimes place arrived),
        (if (!(relevantTimes place arrived).isEmpty) = true then now + debounce else deadline) =
          last + debounce := by
      intro last h
      cases hempty : (relevantTimes place arrived).isEmpty with
      | true => simpa [lastOf, hempty] using hdeadline last (by simpa [lastOf, hempty] using h)
      | false => simpa [lastOf, hempty] using h
    rw [foldl_receive, List.nil_append, settle_queue, any_concerns, hflag, relevantTimes_append,
      htimes]
    exact publications_look id (punctual.take harrived) htimer hrest fun left? => ih

end Task

/-- A service with a single task publishes what the task does by itself. -/
theorem Service.runReady_alone (now steps : Nat) (registry : Registry) (task : Task)
    (debounce : Duration) (hsteps : task.workload ≤ steps) :
    (runReady now steps ⟨registry, [task], debounce⟩).1 =
      List.replicate (task.settle debounce.millis now).1 task.place := by
  induction steps generalizing registry task with
  | zero =>
    have hidle : (task.step debounce.millis now).1 = .idle :=
      by_contra fun h => absurd (Task.workload_step_lt h) (by omega)
    simp [runReady, Task.settle_idle hidle]
  | succ steps ih =>
    by_cases hidle : (task.step debounce.millis now).1 = .idle
    · simp [runReady, ready?, hidle, Task.settle_idle hidle]
    · have hlt := Task.workload_step_lt hidle
      have hplace := (task.step_keeps debounce.millis now).2.1
      generalize hstep : task.step debounce.millis now = turn at hidle hlt hplace
      obtain ⟨outcome, after⟩ := turn
      have hless : after.workload < task.workload := hlt
      have hready : ready? ⟨registry, [task], debounce⟩ now = some task := by
        simp [ready?, hstep, hidle]
      have hturn : ∃ registry', step ⟨registry, [task], debounce⟩ now task =
          (outcome, ⟨registry', [after], debounce⟩) := by
        cases outcome <;> simp [step, poll, hstep, modifyTask, leave]
      obtain ⟨registry', hturn⟩ := hturn
      rw [runReady, hready]
      simp only [hturn]
      rw [ih registry' after (by omega), Task.settle_turn hstep hidle, hplace]
      by_cases hpublished : outcome = .published
      · simp [hpublished, List.replicate_succ]
      · simp [hpublished]

theorem Service.settle_alone (now : Nat) (registry : Registry) (task : Task)
    (debounce : Duration) :
    (settle ⟨registry, [task], debounce⟩ now).1 =
      List.replicate (task.settle debounce.millis now).1 task.place := by
  apply runReady_alone
  have := task.workload_le
  simpa [workload] using this

/-- A task that nothing stops, and that is polled whenever an event arrives and whenever the timer
that a relevant event has set expires, publishes one debounce interval after each relevant event
that the next one does not follow within the interval, and at no other time: once for each maximal
run of relevant events with gaps within the interval. So a relevant event that arrives when the
timer expires comes first and puts the publication off, irrelevant events change nothing, and the
timer that runs from the start publishes nothing by itself. -/
theorem publishes_once_per_burst (debounce id start : Nat) (place : Place) (polls : List Nat)
    (arrivals : List Arrival) (hpolls : polls.Pairwise (· < ·))
    (harrivals : (arrivals.map Arrival.time).Pairwise (· ≤ ·))
    (harrival : ∀ arrival ∈ arrivals, arrival.time ∈ polls)
    (hdeadline : ∀ time ∈ relevantTimes place arrivals, time + debounce ∈ polls ∨
      ∃ next ∈ relevantTimes place arrivals, time < next ∧ next ≤ time + debounce) :
    let task := Task.start id place debounce start
    let times := relevantTimes place arrivals
    let published := task.publications debounce polls arrivals
    published = (lulls debounce times).map (· + debounce) ∧
      published.length =
        (times.splitBy fun earlier later => later ≤ earlier + debounce).length ∧
      (0 < debounce → ∀ time, time + debounce ∈ times → time + debounce ∉ published) ∧
      published =
        task.publications debounce polls (arrivals.filter (·.event.concerns place)) ∧
      (times = [] → published = []) := by
  intro task times published
  have hall : ∀ arrivals : List Arrival, Punctual debounce place polls arrivals none →
      task.publications debounce polls arrivals =
        (lulls debounce (relevantTimes place arrivals)).map (· + debounce) :=
    fun _ punctual => Task.publications_running id punctual (by simp)
  have hpublished : published = (lulls debounce times).map (· + debounce) :=
    hall arrivals ⟨hpolls, harrivals, harrival, hdeadline⟩
  have hsorted : times.Pairwise (· ≤ ·) := harrivals.sublist (List.filter_sublist.map _)
  have hsame : relevantTimes place (arrivals.filter (·.event.concerns place)) = times := by
    simp [relevantTimes, times]
  refine ⟨hpublished, ?_, ?_, ?_, ?_⟩
  · rw [hpublished, List.length_map, length_lulls]
  · intro hpos time hnext h
    rw [hpublished] at h
    obtain ⟨lull, hlull, heq⟩ := List.mem_map.1 h
    obtain rfl : lull = time := Nat.add_right_cancel heq
    exact notMem_lulls hsorted hpos hnext hlull
  · rw [hall (arrivals.filter (·.event.concerns place)), hsame, hpublished]
    exact
      { ascending := hpolls
        sorted := hsorted
        arrival := fun arrival h => harrival arrival (List.mem_of_mem_filter h)
        deadline := by rw [hsame]; exact hdeadline }
  · intro hnone
    rw [hpublished, hnone]
    rfl

/-- Five events: two writes of a store, its creation just when the timer expires, a write of a
sibling, and a late write. The timer of the first one is not waited for. -/
theorem creation_at_the_deadline_published_once :
    let place : Place := ["srv", "store.jks"]
    let arrivals : List Arrival :=
      [⟨10, ⟨.modified, [place]⟩⟩, ⟨60, ⟨.modified, [place]⟩⟩, ⟨160, ⟨.created, [place]⟩⟩,
        ⟨200, ⟨.modified, [["srv", "other.jks"]]⟩⟩, ⟨400, ⟨.modified, [place]⟩⟩]
    (Task.start 1 place 100 0).publications 100 [10, 60, 160, 200, 260, 400, 500] arrivals =
      [260, 500] := by
  intro place arrivals
  have h := (publishes_once_per_burst 100 1 0 place [10, 60, 160, 200, 260, 400, 500] arrivals
    (by decide) (by decide) (by decide) (by decide)).1
  exact h.trans (by decide)

end CredentialWatch.Watch
