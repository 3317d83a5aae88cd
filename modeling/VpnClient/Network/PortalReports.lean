import VpnClient.Library.Answers
import VpnClient.Network.CaptivePortalRequest

/-! What is reported first about a captive portal does not depend on the order in which the probes finish, and nothing
is reported after it unless probes finish after one that sees a portal. -/

namespace VpnClient.Network.CaptivePortalRequest

open Library Library.Answers

def answer (status : ℕ) : Signal → CaptivePortalResult
  | .requestFailed _ _ => .Failure
  | .requestCompleted data => completedResult status data

/-- What the request of a probe has shown: a request is only aborted when it is redirected. -/
def verdict (request : NetworkRequest) : Option CaptivePortalResult :=
  if request.aborted then some .PortalDetected else request.signals.head?.map (answer request.reply.status)

/-- What the results say, in any order. -/
def report (results : List CaptivePortalResult) : CaptivePortalResult :=
  if .PortalDetected ∈ results then .PortalDetected else if .NoPortal ∈ results then .NoPortal else .Failure

/-- The object has been destroyed or all probes have finished. -/
def Complete (c : CaptivePortalRequest) : Prop :=
  c.destroyed = true ∨ ∀ probe ∈ c.probes, probe.request.completed = true

/-- One probe at most sees a portal, and if one does, the others finish before it or not all of them finish. -/
def Undisturbed (c : CaptivePortalRequest) : Prop :=
  c.results.count .PortalDetected ≤ 1 ∧ (.PortalDetected ∈ c.results →
    c.results.length < c.probes.length ∨ c.results.getLast? = some .PortalDetected)

/-- The results are those of the probes that finish while the object lives. The first report is what they say in any
order, and there is no second one if they are undisturbed. -/
structure Reports (c : CaptivePortalRequest) : Prop where
  results : c.destroyed = false → c.results.Perm (c.probes.filterMap fun probe => verdict probe.request)
  first : c.Complete → ∀ results, results.Perm c.results → c.emitted.head? = some (report results)
  once : c.Complete → c.Undisturbed → c.emitted.length = 1

/-- A request of a probe, which is aborted only when it is completed by that. -/
structure Probing (request : NetworkRequest) : Prop where
  inv : request.Inv
  aborted : request.aborted = true → request.completed = true

structure Inv (c : CaptivePortalRequest) : Prop where
  probing : ∀ probe ∈ c.probes, Probing probe.request
  nonempty : c.probes ≠ []
  running : c.running = c.probes.length - c.results.length
  success : c.success = c.results.count .NoPortal
  deleting : c.deleting = true → c.emitted ≠ []
  destroyed : c.destroyed = true → c.deleting = true
  results : c.destroyed = false → c.results.Perm (c.probes.filterMap fun probe => verdict probe.request)
  first : if .PortalDetected ∈ c.results then c.emitted.head? = some .PortalDetected
    else c.emitted = if c.results.length = c.probes.length then [report c.results] else []
  count : c.emitted.length = c.results.count .PortalDetected +
    if c.results.length = c.probes.length ∧ c.results.getLast? ≠ some .PortalDetected then 1 else 0

variable {c : CaptivePortalRequest} {r request : NetworkRequest} {probe : Probe} {i : ℕ}
  {result : CaptivePortalResult} {results : List CaptivePortalResult}

lemma Probing.verdict_eq_none (h : Probing r) (hc : r.completed = false) : verdict r = none := by
  have ha : r.aborted = false := by
    cases ha : r.aborted with
    | false => rfl
    | true => exact (h.aborted ha).symm.trans hc
  have hs : r.signals = [] := List.length_eq_zero_iff.mp (by simpa [hc] using h.inv.signals)
  simp [verdict, ha, hs]

lemma Probing.verdict_isSome (h : Probing r) (hc : r.completed = true) : (verdict r).isSome = true := by
  have hs : r.signals.length = 1 := by simpa [hc] using h.inv.signals
  obtain ⟨signal, hs⟩ := List.length_eq_one_iff.mp hs
  rw [verdict]
  split_ifs <;> simp [hs]

lemma step_aborted {event : NetworkRequest.Event} (h : r.Inv) (hc : r.completed = false) (he : event ≠ .abort) :
    (NetworkRequest.step r event).aborted = r.aborted := by
  have hf : ¬ r.reply.finished = true := by simp [h.finished, hc]
  cases event with
  | received chunk => rw [NetworkRequest.step, if_neg hf]
  | readyRead =>
    rw [NetworkRequest.step, if_neg hf]
    rfl
  | metaDataChanged status => rw [NetworkRequest.step, if_neg hf]
  | finished error => rw [NetworkRequest.step, if_neg hf, NetworkRequest.finish_eq h hc]
  | timeout => rw [NetworkRequest.step, if_pos (h.timer hc), NetworkRequest.timeout_eq h hc]
  | abort => exact absurd rfl he

/-- A request shows something with the one signal that it emits. -/
lemma Probing.step {event : NetworkRequest.Event} (h : Probing r) (he : event ≠ .abort) :
    Probing (NetworkRequest.step r event) ∧
      ((NetworkRequest.step r event).signals.drop r.signals.length = [] ∧
          verdict (NetworkRequest.step r event) = verdict r ∨
        ∃ signal, (NetworkRequest.step r event).signals.drop r.signals.length = [signal] ∧
          (NetworkRequest.step r event).aborted = false ∧ verdict r = none ∧
          verdict (NetworkRequest.step r event) =
            some (answer (NetworkRequest.step r event).reply.status signal)) := by
  have hi := h.inv.step event
  cases hc : r.completed with
  | true =>
    have hs : NetworkRequest.step r event = r := by
      have hf : r.reply.finished = true := h.inv.finished.trans hc
      have ht : r.timer = false := by rw [h.inv.stopped, hc]; rfl
      cases event with
      | abort => exact absurd rfl he
      | _ => simp [NetworkRequest.step, hf, ht]
    rw [hs]
    exact ⟨h, Or.inl ⟨List.drop_length, rfl⟩⟩
  | false =>
    have hn := h.verdict_eq_none hc
    have hs : r.signals = [] := List.length_eq_zero_iff.mp (by simpa [hc] using h.inv.signals)
    have ha : (NetworkRequest.step r event).aborted = false := by
      rw [step_aborted h.inv hc he]
      cases ha : r.aborted with
      | false => rfl
      | true => exact (h.aborted ha).symm.trans hc
    have hp : Probing (NetworkRequest.step r event) := ⟨hi, fun h => by simp [ha] at h⟩
    refine ⟨hp, ?_⟩
    rw [hs]
    cases hc' : (NetworkRequest.step r event).completed with
    | false =>
      left
      rw [hn, hp.verdict_eq_none hc']
      have hs' : (NetworkRequest.step r event).signals.length = 0 := by simpa [hc'] using hi.signals
      exact ⟨by simpa using hs', rfl⟩
    | true =>
      right
      have hs' : (NetworkRequest.step r event).signals.length = 1 := by simpa [hc'] using hi.signals
      obtain ⟨signal, hs'⟩ := List.length_eq_one_iff.mp hs'
      exact ⟨signal, by simp [hs'], ha, hn, by simp [verdict, ha, hs']⟩

lemma Probing.abort (h : Probing r) (hc : r.completed = false) :
    Probing r.abort ∧ verdict r.abort = some .PortalDetected ∧ r.abort.aborted = true := by
  have ha : r.abort = { r with aborted := true }.finish .OperationCanceledError :=
    NetworkRequest.step_abort h.inv hc
  have hi : r.abort.Inv := h.inv.step .abort
  rw [NetworkRequest.finish_eq h.inv.aborted hc] at ha
  have ht : r.abort.aborted = true := by rw [ha]
  refine ⟨⟨hi, fun _ => ?_⟩, ?_, ht⟩
  · rw [ha]
  · rw [verdict, if_pos ht]

lemma slot_eq (signal : Signal) (ha : request.aborted = false) :
    slot request c signal = c.onResult (answer request.reply.status signal) := by
  cases signal <;> simp [slot, answer, ha]

lemma foldl_slot_aborted (signals : List Signal) (ha : request.aborted = true) :
    signals.foldl (slot request) c = c := by
  induction signals with
  | nil => rfl
  | cons signal signals ih =>
    have hs : slot request c signal = c := by cases signal <;> simp [slot, ha]
    rw [List.foldl_cons, hs, ih]

lemma update_destroyed (hd : c.destroyed = true) : c.update i probe request = c.withRequest i probe request := by
  rw [update]
  exact if_pos hd

lemma update_living (hd : c.destroyed = false) : c.update i probe request =
    (request.signals.drop probe.request.signals.length).foldl (slot request) (c.withRequest i probe request) := by
  rw [update]
  exact if_neg (by simp [withRequest, hd])

/-- What can happen: a request goes on without a verdict, or it comes to one, or the object is destroyed. -/
inductive Change (c : CaptivePortalRequest) : CaptivePortalRequest → Prop
  | same : Change c c
  | silent {i : ℕ} {probe : Probe} {request : NetworkRequest} : c.probes[i]? = some probe → Probing request →
      (c.destroyed = false → verdict request = verdict probe.request) → Change c (c.withRequest i probe request)
  | result {i : ℕ} {probe : Probe} {request : NetworkRequest} {result : CaptivePortalResult} :
      c.probes[i]? = some probe → Probing request → c.destroyed = false → verdict probe.request = none →
      verdict request = some result → Change c ((c.withRequest i probe request).onResult result)
  | destroyed : c.deleting = true → Change c { c with destroyed := true }

lemma change_handle {event : NetworkRequest.Event} (i : ℕ) (hp : ∀ probe ∈ c.probes, Probing probe.request)
    (he : event ≠ .abort) : Change c (c.handle i event) := by
  rw [handle]
  split
  · exact .same
  · next probe hi =>
    obtain ⟨hr, hs⟩ := (hp probe (List.mem_of_getElem? hi)).step he
    cases hd : c.destroyed with
    | true =>
      rw [update_destroyed hd]
      exact .silent hi hr fun h => by simp [hd] at h
    | false =>
      rw [update_living hd]
      rcases hs with ⟨hs, hv⟩ | ⟨signal, hs, ha, hn, hv⟩
      · rw [hs]
        exact .silent hi hr fun _ => hv
      · rw [hs, List.foldl_cons, List.foldl_nil, slot_eq signal ha]
        exact .result hi hr hd hn hv

lemma change_requestRedirected (i : ℕ) (hp : ∀ probe ∈ c.probes, Probing probe.request) :
    Change c (c.requestRedirected i) := by
  rw [requestRedirected]
  split
  · exact .same
  · next probe hi =>
    split_ifs with hf
    · exact .same
    · obtain ⟨hf, hd⟩ := by simpa using hf
      have h := hp probe (List.mem_of_getElem? hi)
      have hc : probe.request.completed = false := h.inv.finished.symm.trans hf
      obtain ⟨hr, hv, ha⟩ := h.abort hc
      rw [update_living hd, foldl_slot_aborted _ ha]
      exact .result hi hr hd (h.verdict_eq_none hc) hv

lemma change_step (hp : ∀ probe ∈ c.probes, Probing probe.request) (e : Event) : Change c (c.step e) := by
  cases e with
  | received i chunk => exact change_handle i hp (by simp)
  | readyRead i => exact change_handle i hp (by simp)
  | metaDataChanged i status => exact change_handle i hp (by simp)
  | finished i error => exact change_handle i hp (by simp)
  | timeout i => exact change_handle i hp (by simp)
  | redirected i => exact change_requestRedirected i hp
  | destroyed =>
    rw [CaptivePortalRequest.step]
    split_ifs with hd
    · exact .destroyed hd
    · exact .same

/-- What `onResult` emits. -/
def emission (n : ℕ) (results : List CaptivePortalResult) (result : CaptivePortalResult) : List CaptivePortalResult :=
  if result = .PortalDetected then [.PortalDetected]
  else if results.length + 1 = n then [if .NoPortal ∈ results ++ [result] then .NoPortal else .Failure]
  else []

def counted (result : CaptivePortalResult) (c : CaptivePortalRequest) : CaptivePortalRequest :=
  { c with
    running := c.running - 1
    success := c.success + if result = .NoPortal then 1 else 0
    results := c.results ++ [result] }

lemma success_counted (hs : c.success = c.results.count .NoPortal) :
    (c.counted result).success = (c.results ++ [result]).count .NoPortal := by
  rw [counted, List.count_append, hs]
  cases result <;> rfl

/-- A result is counted, and what is emitted for it starts the deletion. -/
lemma onResult_eq {n : ℕ} (hr : c.running = n - c.results.length) (hs : c.success = c.results.count .NoPortal)
    (result : CaptivePortalResult) : c.onResult result =
      { c.counted result with
        deleting := c.deleting || !(emission n c.results result).isEmpty
        emitted := c.emitted ++ emission n c.results result } := by
  have hz : c.running - 1 = 0 ↔ c.results.length + 1 = n := by omega
  have hm : .NoPortal ∈ c.results ++ [result] ↔ (c.counted result).success > 0 := by
    rw [success_counted hs, gt_iff_lt, Int.natCast_pos, List.count_pos_iff]
  have hc : c.onResult result =
      if result = .PortalDetected then completed .PortalDetected { c.counted result with deleting := true }
      else if c.running - 1 = 0 then
        completed (if (c.counted result).success > 0 then .NoPortal else .Failure)
          { c.counted result with deleting := true }
      else c.counted result := by
    cases result <;> simp [onResult, counted]
  rw [hc, emission]
  simp only [hz, hm]
  split_ifs <;> simp [completed, counted]

lemma probing_set (h : c.Inv) (hr : Probing request) :
    ∀ p ∈ (c.withRequest i probe request).probes, Probing p.request := by
  intro p hp
  rcases List.mem_or_eq_of_mem_set hp with hp | rfl
  · exact h.probing p hp
  · exact hr

@[simp] lemma length_withRequest : (c.withRequest i probe request).probes.length = c.probes.length := List.length_set

lemma withRequest_ne_nil (h : c.probes ≠ []) : (c.withRequest i probe request).probes ≠ [] := by
  rw [← List.length_pos_iff] at h ⊢
  rwa [length_withRequest]

lemma Inv.withRequest (h : c.Inv) (hi : c.probes[i]? = some probe) (hr : Probing request)
    (hv : c.destroyed = false → verdict request = verdict probe.request) : (c.withRequest i probe request).Inv := by
  constructor
  case probing => exact probing_set h hr
  case nonempty => exact withRequest_ne_nil h.nonempty
  case running =>
    rw [length_withRequest]
    exact h.running
  case success => exact h.success
  case deleting => exact h.deleting
  case destroyed => exact h.destroyed
  case results =>
    intro hd
    have hf : ((c.withRequest i probe request).probes.filterMap fun probe => verdict probe.request) =
        c.probes.filterMap fun probe => verdict probe.request := filterMap_set_same hi (hv hd)
    rw [hf]
    exact h.results hd
  case first =>
    rw [length_withRequest]
    exact h.first
  case count =>
    rw [length_withRequest]
    exact h.count

/-- Before a probe comes to its verdict, only portals have been reported. -/
lemma emitted_of_lt (h : c.Inv) (hlt : c.results.length < c.probes.length) :
    (.PortalDetected ∉ c.results → c.emitted = []) ∧
      c.emitted.length = c.results.count .PortalDetected := by
  constructor
  · intro hp
    have hf := h.first
    rwa [if_neg hp, if_neg hlt.ne] at hf
  · have hc := h.count
    rwa [if_neg fun hl => hlt.ne hl.1] at hc

lemma report_append (hp : .PortalDetected ∉ results) (hr : result ≠ .PortalDetected) :
    report (results ++ [result]) = if .NoPortal ∈ results ++ [result] then .NoPortal else .Failure := by
  rw [report, if_neg]
  simp [hp, hr.symm]

lemma Inv.onResult (h : c.Inv) (hi : c.probes[i]? = some probe) (hr : Probing request) (hd : c.destroyed = false)
    (hn : verdict probe.request = none) (hv : verdict request = some result) :
    ((c.withRequest i probe request).onResult result).Inv := by
  have hlt : c.results.length < c.probes.length := by
    rw [(h.results hd).length_eq]
    exact length_filterMap_lt hi hn
  obtain ⟨he, hl⟩ := emitted_of_lt h hlt
  have hc : (c.withRequest i probe request).running = c.probes.length - (c.withRequest i probe request).results.length :=
    h.running
  rw [onResult_eq hc h.success result]
  constructor
  case probing => exact probing_set h hr
  case nonempty => exact withRequest_ne_nil h.nonempty
  case running =>
    change c.running - 1 = ((c.probes.set i _).length : ℤ) - (c.results ++ [result]).length
    rw [h.running, List.length_set, List.length_append, List.length_singleton]
    push_cast
    ring
  case success => exact success_counted h.success
  case deleting =>
    intro hdel
    rcases Bool.or_eq_true_iff.mp hdel with hdel | hdel
    · exact List.append_ne_nil_of_left_ne_nil (h.deleting hdel) _
    · exact List.append_ne_nil_of_right_ne_nil _ (by simpa using hdel)
  case destroyed =>
    intro hd'
    exact absurd (hd.symm.trans hd') (by simp)
  case results =>
    intro _
    exact ((h.results hd).append_right [result]).trans (filterMap_set_perm hi hn hv)
  case first =>
    change if .PortalDetected ∈ c.results ++ [result] then
        (c.emitted ++ emission c.probes.length c.results result).head? = some .PortalDetected
      else c.emitted ++ emission c.probes.length c.results result =
        if (c.results ++ [result]).length = (c.probes.set i _).length then [report (c.results ++ [result])] else []
    by_cases hp : .PortalDetected ∈ c.results
    · have hf : c.emitted.head? = some .PortalDetected := by simpa [hp] using h.first
      rw [if_pos (List.mem_append_left _ hp), List.head?_append, hf]
      rfl
    · rw [he hp, List.nil_append, emission]
      by_cases hx : result = .PortalDetected
      · rw [if_pos (by simp [hx]), if_pos hx]
        rfl
      · rw [if_neg (by simp [hp, Ne.symm hx]), if_neg hx, ← report_append hp hx, List.length_append,
          List.length_singleton, List.length_set]
  case count =>
    change (c.emitted ++ emission c.probes.length c.results result).length =
      (c.results ++ [result]).count .PortalDetected +
        if (c.results ++ [result]).length = (c.probes.set i _).length ∧
          (c.results ++ [result]).getLast? ≠ some .PortalDetected then 1 else 0
    rw [List.length_append, hl, List.count_append, List.getLast?_concat, List.length_append, List.length_singleton,
      List.length_set, emission]
    by_cases hx : result = .PortalDetected
    · simp [hx]
    · by_cases hn : c.results.length + 1 = c.probes.length <;> simp [hx, hn]

lemma Inv.change {c' : CaptivePortalRequest} (h : c.Inv) (hc : Change c c') : c'.Inv := by
  cases hc with
  | same => exact h
  | silent hi hr hv => exact h.withRequest hi hr hv
  | result hi hr hd hn hv => exact h.onResult hi hr hd hn hv
  | destroyed hd =>
    exact ⟨h.probing, h.nonempty, h.running, h.success, h.deleting, fun _ => hd, fun h => by simp at h, h.first,
      h.count⟩

lemma foldl_createRequest (f : String → String) (addresses : List String) (c : CaptivePortalRequest) :
    addresses.foldl (fun c address => c.createRequest (f address)) c =
      { c with
        probes := c.probes ++ addresses.map fun address => { url := f address }
        running := c.running + addresses.length } := by
  induction addresses generalizing c with
  | nil => simp
  | cons address addresses ih =>
    rw [List.foldl_cons, ih, createRequest]
    simp [add_comm, add_left_comm]

lemma filterMap_verdict_fresh {f : String → String} (addresses : List String) :
    ((addresses.map fun address => ({ url := f address } : Probe)).filterMap fun probe => verdict probe.request) = [] := by
  induction addresses with
  | nil => rfl
  | cons address addresses ih => exact ih

lemma inv_run {ipv4Addresses ipv6Addresses : List String} (hn : ¬ (ipv4Addresses = [] ∧ ipv6Addresses = [])) :
    (run ipv4Addresses ipv6Addresses).Inv := by
  have hr : Probing { expectedStatusCodes := [] } :=
    ⟨⟨⟨rfl, fun _ => rfl, rfl⟩, rfl, rfl, fun _ => rfl⟩, fun h => by cases h⟩
  rw [run, if_neg (by simpa using hn), foldl_createRequest, foldl_createRequest]
  have hl : ¬ 0 = ipv4Addresses.length + ipv6Addresses.length := by
    intro hl
    apply hn
    rw [← List.length_eq_zero_iff, ← List.length_eq_zero_iff]
    omega
  constructor
  case probing =>
    intro probe hp
    simp only [List.nil_append, List.mem_append, List.mem_map] at hp
    rcases hp with ⟨address, -, rfl⟩ | ⟨address, -, rfl⟩ <;> exact hr
  case nonempty => simpa using hn
  case running => simp
  case success => rfl
  case deleting => simp
  case destroyed => simp
  case results =>
    intro _
    rw [List.nil_append, List.filterMap_append, filterMap_verdict_fresh, filterMap_verdict_fresh]
    rfl
  case first => simpa using hl
  case count => simpa using hl

lemma length_results (h : c.Inv) (hd : c.destroyed = false) (hc : c.Complete) :
    c.results.length = c.probes.length := by
  rw [(h.results hd).length_eq, List.filterMap_length_eq_length]
  intro probe hp
  exact (h.probing probe hp).verdict_isSome (hc.resolve_left (by simp [hd]) probe hp)

lemma Complete.emitted_ne_nil (h : c.Inv) (hc : c.Complete) : c.emitted ≠ [] := by
  cases hd : c.destroyed with
  | true => exact h.deleting (h.destroyed hd)
  | false =>
    have hf := h.first
    rw [if_pos (length_results h hd hc)] at hf
    intro he
    rw [he] at hf
    split_ifs at hf
    simp at hf

lemma report_perm {results' : List CaptivePortalResult} (hp : results'.Perm results) :
    report results' = report results := by
  simp only [report, hp.mem_iff]

lemma Inv.reports (h : c.Inv) : c.Reports := by
  constructor
  case results => exact h.results
  case first =>
    intro hc results hp
    have he := Complete.emitted_ne_nil h hc
    have hf := h.first
    rw [report_perm hp]
    split_ifs at hf with hx hl
    · rw [hf, report, if_pos hx]
    · rw [hf]
      rfl
    · exact absurd hf he
  case once =>
    intro hc hu
    have he := List.length_pos_iff.mpr (Complete.emitted_ne_nil h hc)
    have hn := h.count
    by_cases hx : .PortalDetected ∈ c.results
    · have h1 := List.count_pos_iff.mpr hx
      rw [if_neg fun hl => (hu.2 hx).elim hl.1.not_lt hl.2] at hn
      have h2 := hu.1
      omega
    · rw [List.count_eq_zero_of_not_mem hx] at hn
      split_ifs at hn <;> omega

lemma run_nil (events : List Event) : Runs.run step (run [] []) events = run [] [] := by
  induction events with
  | nil => rfl
  | cons e events ih =>
    have he : step (run [] []) e = run [] [] := by cases e <;> rfl
    rw [Runs.run, List.foldl_cons, he]
    exact ih

/-- In every run the first report is what the results say in any order, and it is the only one if they are undisturbed;
without an address no portal is reported. -/
theorem reports_run (ipv4Addresses ipv6Addresses : List String) (events : List Event) :
    if ipv4Addresses = [] ∧ ipv6Addresses = [] then
      (Runs.run step (run ipv4Addresses ipv6Addresses) events).emitted = [.NoPortal]
    else (Runs.run step (run ipv4Addresses ipv6Addresses) events).Reports := by
  split_ifs with hn
  · obtain ⟨rfl, rfl⟩ := hn
    rw [run_nil]
    rfl
  · exact (Runs.run_invariant (fun c e h => h.change (change_step h.probing e)) (inv_run hn)).reports

example : (Runs.run step (run ["a", "b"] []) [.redirected 0, .redirected 1]).emitted =
    [.PortalDetected, .PortalDetected] := by decide +kernel

theorem not_reports_no_addresses :
    ¬ ((run [] []).Complete → (run [] []).emitted = [report (run [] []).results]) := by
  intro h
  have he := h (Or.inr fun probe hp => by simp [run, completed] at hp)
  cases he

end VpnClient.Network.CaptivePortalRequest
