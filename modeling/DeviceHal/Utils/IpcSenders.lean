import DeviceHal.Utils.IpcRoundTrip

/-! # Several senders at one listener

Any process may write to the listener's socket, and a datagram does not say
who sent it: the parts of a long string are whatever arrives after its header.
Every sender sends its strings one after the other, and an interleaving is the
list of the senders whose next datagram arrives. As long as no other datagram
arrives within a long string, the listener hands over what was sent. -/
namespace DeviceHal.Utils.LocIpc
open DeviceHal.Lib.Buffer DeviceHal.Lib.CText DeviceHal.Lib.Run

/-! ## Senders and their datagrams -/

structure Sender where
  /-- The strings not sent completely; the first one may have begun. -/
  unsent : List Bytes
  /-- Once the first string has begun, its datagrams that are still to come. -/
  parts : List Bytes

structure Traffic (ι : Type*) where
  senders : ι → Sender
  listener : Listener
  /-- The strings whose last datagram has arrived, in that order. -/
  finished : List (ι × Bytes)

section
variable {ι : Type*}

/-- The strings to be handed over: an empty one never is. -/
def nonEmpty (finished : List (ι × Bytes)) : List Bytes :=
  (finished.map Prod.snd).filter (· ≠ [])

theorem nonEmpty_concat (finished : List (ι × Bytes)) (i : ι) (s : Bytes) :
    nonEmpty (finished ++ [(i, s)]) = nonEmpty finished ++ if s = [] then [] else [s] := by
  by_cases hs : s = [] <;> simp [nonEmpty, hs]

/-- The string that the listener's buffer still holds. -/
def Traffic.last (w : Traffic ι) : Bytes := (nonEmpty w.finished).getLastD []

variable [DecidableEq ι]

/-- Nothing is sent yet. -/
def Traffic.init (sends : ι → List Bytes) : Traffic ι :=
  { senders := fun i => ⟨sends i, []⟩, listener := start, finished := [] }

/-- The datagrams of the string that is the sender's turn. -/
def Sender.queue (x : Sender) (s : Bytes) : List Bytes := if x.parts = [] then send s else x.parts

/-- The next datagram of sender `i` arrives. -/
def arrive (w : Traffic ι) (i : ι) : Traffic ι :=
  match (w.senders i).unsent with
  | [] => w
  | s :: rest =>
    match (w.senders i).queue s with
    | [] => w
    | d :: ps =>
      { senders := Function.update w.senders i (if ps = [] then ⟨rest, []⟩ else ⟨s :: rest, ps⟩)
        listener := recv w.listener d
        finished := if ps = [] then w.finished ++ [(i, s)] else w.finished }

/-- Only the sender of a long string that has begun may go on. -/
def Uninterrupted (w : Traffic ι) (i : ι) : Prop := ∀ j, (w.senders j).parts ≠ [] → j = i

/-- If sender `i` begins a string, it is read clean. -/
def CleanStart (w : Traffic ι) (i : ι) : Prop :=
  (w.senders i).parts = [] → ∀ s ∈ (w.senders i).unsent.head?, s ≠ [] → CleanRead w.last s

/-! ## The invariant -/

/-- The finished strings are handed over, and the listener is where the one
sender that may be within a long string is. -/
structure InStep (sends : ι → List Bytes) (w : Traffic ι) : Prop where
  order : ∀ i, (w.finished.filter (·.1 = i)).map Prod.snd ++ (w.senders i).unsent = sends i
  received : w.listener.received = nonEmpty w.finished
  idle : (∀ i, (w.senders i).parts = []) → w.listener.position = .outer ∧
    resize 0 LOC_MSG_BUF_LEN w.listener.msg = resize 0 LOC_MSG_BUF_LEN w.last
  busy : ∀ i, (w.senders i).parts ≠ [] → ∃ s rest r, (w.senders i).unsent = s :: rest ∧
    r < s.length ∧ (w.senders i).parts = sendParts s s.length r ∧ Receiving s r w.listener

theorem inStep_init (sends : ι → List Bytes) : InStep sends (Traffic.init sends) where
  order _ := rfl
  received := rfl
  idle _ := ⟨rfl, rfl⟩
  busy _ h := absurd rfl h

section
variable {sends : ι → List Bytes} {w : Traffic ι} {i : ι} {s : Bytes} {rest : List Bytes}
variable {ℓ : Listener}

/-- A datagram of a long string that is not its last. -/
theorem InStep.more {r : Nat} (h : InStep sends w) (hu : Uninterrupted w i)
    (hs : (w.senders i).unsent = s :: rest) (hr : r < s.length) (hrecv : Receiving s r ℓ)
    (hsame : ℓ.received = w.listener.received) :
    InStep sends
      { senders := Function.update w.senders i ⟨s :: rest, sendParts s s.length r⟩
        listener := ℓ
        finished := w.finished } where
  order j := by
    by_cases hj : j = i
    · subst hj
      simpa [hs] using h.order j
    · simpa [hj] using h.order j
  received := hsame.trans h.received
  idle hall := by
    have hi := hall i
    simp [sendParts_of_lt hr] at hi
  busy j hj := by
    by_cases hji : j = i
    · subst hji
      exact ⟨s, rest, r, by simp, hr, by simp, hrecv⟩
    · simp only [Function.update_of_ne hji] at hj
      exact absurd (hu j hj) hji

/-- The last datagram of a string. -/
theorem InStep.finish (h : InStep sends w) (hu : Uninterrupted w i)
    (hs : (w.senders i).unsent = s :: rest) (hpos : ℓ.position = .outer)
    (hrec : ℓ.received = nonEmpty w.finished ++ if s = [] then [] else [s])
    (hbuf : resize 0 LOC_MSG_BUF_LEN ℓ.msg =
      resize 0 LOC_MSG_BUF_LEN (if s = [] then w.last else s)) :
    InStep sends
      { senders := Function.update w.senders i ⟨rest, []⟩
        listener := ℓ
        finished := w.finished ++ [(i, s)] } where
  order j := by
    have hj := h.order j
    by_cases hji : j = i
    · subst hji
      simpa [hs, List.filter_append] using hj
    · have hij : i ≠ j := fun hij => hji hij.symm
      simpa [hji, hij, List.filter_append] using hj
  received := by
    rw [nonEmpty_concat]
    exact hrec
  idle _ := by
    refine ⟨hpos, ?_⟩
    rw [hbuf, Traffic.last, Traffic.last, nonEmpty_concat]
    split
    · rw [List.append_nil]
    · rw [List.getLastD_concat]
  busy j hj := by
    by_cases hji : j = i
    · subst hji
      simp at hj
    · simp only [Function.update_of_ne hji] at hj
      exact absurd (hu j hj) hji

theorem arrive_last {d : Bytes} (hs : (w.senders i).unsent = s :: rest)
    (hq : (w.senders i).queue s = [d]) :
    arrive w i =
      { senders := Function.update w.senders i ⟨rest, []⟩
        listener := recv w.listener d
        finished := w.finished ++ [(i, s)] } := by
  simp only [arrive, hs, hq, if_true]

theorem arrive_more {d : Bytes} {ps : List Bytes} (hs : (w.senders i).unsent = s :: rest)
    (hq : (w.senders i).queue s = d :: ps) (hps : ps ≠ []) :
    arrive w i =
      { senders := Function.update w.senders i ⟨s :: rest, ps⟩
        listener := recv w.listener d
        finished := w.finished } := by
  simp only [arrive, hs, hq, hps, if_false]

/-- The first datagram of a string. -/
theorem InStep.first (h : InStep sends w) (hu : Uninterrupted w i) (hclean : CleanStart w i)
    (hs : (w.senders i).unsent = s :: rest) (hparts : (w.senders i).parts = []) :
    InStep sends (arrive w i) := by
  have hall : ∀ j, (w.senders j).parts = [] := by
    intro j
    by_contra hj
    rw [hu j hj] at hj
    exact hj hparts
  obtain ⟨hpos, hbuf⟩ := h.idle hall
  have hqueue : (w.senders i).queue s = send s := if_pos hparts
  by_cases hne : s = []
  · subst hne
    have hempty : ([] : Bytes).length ≤ LOC_MSG_BUF_LEN := Nat.zero_le _
    rw [arrive_last hs (hqueue.trans (send_of_short hempty)), recv_outer hpos hbuf hempty,
      if_pos rfl]
    exact h.finish hu hs hpos (by simpa using h.received) (by simp)
  have hclean : CleanRead w.last s := hclean hparts s (by simp [hs]) hne
  by_cases hshort : s.length ≤ LOC_MSG_BUF_LEN
  · rw [arrive_last hs (hqueue.trans (send_of_short hshort)),
      recv_short hpos hbuf hne hshort hclean]
    refine h.finish hu hs rfl ?_ ?_
    · rw [if_neg hne, Listener.onReceive, h.received]
    · rw [if_neg hne]
      rfl
  · have hlong : LOC_MSG_BUF_LEN < s.length := by omega
    have hlt : 0 < s.length := by omega
    obtain ⟨hstate, hsame⟩ := recv_header hpos hbuf hlong hclean
    rw [arrive_more hs (hqueue.trans (send_of_long hlong hclean.1)) (by simp [sendParts_of_lt hlt])]
    exact h.more hu hs hlt hstate hsame

/-- A part of a long string. -/
theorem InStep.next (h : InStep sends w) (hu : Uninterrupted w i)
    (hparts : (w.senders i).parts ≠ []) : InStep sends (arrive w i) := by
  obtain ⟨s, rest, r, hs, hr, hrest, hstate⟩ := h.busy i hparts
  have hne : s ≠ [] := List.ne_nil_of_length_pos (Nat.zero_lt_of_lt hr)
  have hqueue : (w.senders i).queue s =
      nextPart s r :: sendParts s s.length (r + partLen (s.length - r)) := by
    rw [Sender.queue, if_neg hparts, hrest, sendParts_of_lt hr]
  have hnext := recv_nextPart hr hstate
  split at hnext
  · rename_i hmore
    obtain ⟨hstate', hsame⟩ := hnext
    rw [arrive_more hs hqueue (by simp [sendParts_of_lt hmore])]
    exact h.more hu hs hmore hstate' hsame
  · rename_i hlast
    rw [sendParts_of_le (Nat.le_of_not_lt hlast)] at hqueue
    rw [arrive_last hs hqueue, hnext]
    refine h.finish hu hs rfl ?_ ?_
    · rw [if_neg hne, Listener.onReceive, h.received]
    · rw [if_neg hne]
      rfl

theorem inStep_arrive (w : Traffic ι) (i : ι) (h : InStep sends w)
    (hg : Uninterrupted w i ∧ CleanStart w i) : InStep sends (arrive w i) := by
  obtain ⟨hu, hclean⟩ := hg
  by_cases hparts : (w.senders i).parts = []
  · cases hs : (w.senders i).unsent with
    | nil =>
      have harrive : arrive w i = w := by simp only [arrive, hs]
      rw [harrive]
      exact h
    | cons s rest => exact h.first hu hclean hs hparts
  · exact h.next hu hparts

end

/-! ## Interleavings -/

/-- **Whatever the senders and the order of their datagrams, as long as long
strings arrive uninterrupted and reads are clean: the calls of `onReceive` are
the non-empty strings that have arrived, one call each and nothing else, and
what has arrived of a sender are its strings in order.** -/
theorem uninterrupted_sends_received (sends : ι → List Bytes) (arrivals : List ι)
    (h : Steps arrive (fun w i => Uninterrupted w i ∧ CleanStart w i) (Traffic.init sends)
      arrivals) :
    let w := run arrive (Traffic.init sends) arrivals
    w.listener.received = (w.finished.map Prod.snd).filter (· ≠ []) ∧
      ∀ i, (w.finished.filter (·.1 = i)).map Prod.snd ++ (w.senders i).unsent = sends i := by
  have hall := inv_run inStep_arrive (inStep_init sends) h
  exact ⟨hall.received, hall.order⟩

end

instance Uninterrupted.decidable (w : Traffic Bool) (i : Bool) : Decidable (Uninterrupted w i) := by
  unfold Uninterrupted
  infer_instance

instance CleanStart.decidable (w : Traffic Bool) (i : Bool) : Decidable (CleanStart w i) := by
  unfold CleanStart
  infer_instance

theorem uninterrupted_sends_received_two :
    let sends : Bool → List Bytes := fun i =>
      if i then [bytesOf ['t', 'w', 'o']] else [List.replicate 8193 97, [], bytesOf ['o', 'n', 'e']]
    let w := run arrive (Traffic.init sends) [true, false, false, false, false, false]
    w.listener.received = (w.finished.map Prod.snd).filter (· ≠ []) ∧
      ∀ i, (w.finished.filter (·.1 = i)).map Prod.snd ++ (w.senders i).unsent = sends i :=
  uninterrupted_sends_received _ _ (by decide +kernel)

/-! ## Interrupted strings -/

/-- A foreign datagram behind a header, then the parts of a string of one byte
more than the buffer: the first part completes the message. -/
theorem foreign_not_received {s t : Bytes} {ℓ : Listener} (h : Receiving s 0 ℓ)
    (hlen : s.length = LOC_MSG_BUF_LEN + 1) (ht : t.length = 1)
    (htail : t ≠ nextPart s LOC_MSG_BUF_LEN) (hrec : ℓ.received = []) :
    t ∉ (listen ℓ [t, nextPart s 0, nextPart s LOC_MSG_BUF_LEN]).received := by
  have hfirst : recv ℓ t = { ℓ with msg := recvInto ℓ.msg 0 t, position := .inner 1 } := by
    simp only [recv, h.position, Listener.recvPart, h.length, hlen, ht]
    rfl
  have hpart : (nextPart s 0).length = LOC_MSG_BUF_LEN := by
    rw [length_nextPart, hlen]
    rfl
  have hsize : (recvInto ℓ.msg 0 t).length = LOC_MSG_BUF_LEN + 1 := by
    rw [length_recvInto, h.length, hlen]
  have hfull : recv (recv ℓ t) (nextPart s 0) =
      (recv ℓ t).onReceive (recvInto (recvInto ℓ.msg 0 t) 1 (nextPart s 0)) := by
    rw [hfirst]
    simp only [recv, Listener.recvPart, hsize, hpart]
    rfl
  have hlast : (nextPart s LOC_MSG_BUF_LEN).length ≤ LOC_MSG_BUF_LEN := by
    rw [length_nextPart, hlen]
    decide
  have hreceived : ((recv ℓ t).onReceive (recvInto (recvInto ℓ.msg 0 t) 1 (nextPart s 0))).received
      = [recvInto (recvInto ℓ.msg 0 t) 1 (nextPart s 0)] := by
    rw [Listener.onReceive, hfirst]
    simp [hrec]
  have hne : t ≠ recvInto (recvInto ℓ.msg 0 t) 1 (nextPart s 0) := by
    intro heq
    have := congrArg List.length heq
    rw [length_recvInto, hsize, ht] at this
    exact absurd this (by decide)
  show t ∉ (recv (recv (recv ℓ t) (nextPart s 0)) (nextPart s LOC_MSG_BUF_LEN)).received
  rw [hfull]
  obtain ⟨hsame, _⟩ | ⟨x, heq, hx⟩ | ⟨hsame, _⟩ := @recv_outer_cases
    ((recv ℓ t).onReceive (recvInto (recvInto ℓ.msg 0 t) 1 (nextPart s 0))) _ rfl hlast
  · rw [hsame, hreceived]
    simpa using hne
  · have htx : t ≠ x := by
      intro htx
      obtain hx | ⟨hx, _⟩ := hx
      · simp [htx, hx] at ht
      · exact htail (htx.trans hx)
    rw [heq, Listener.onReceive, hreceived]
    simpa using ⟨hne, htx⟩
  · rw [hsame, hreceived]
    simpa using hne

theorem listener_of_interrupted {s t : Bytes} (hlen : s.length = LOC_MSG_BUF_LEN + 1)
    (ht : t.length = 1) :
    (run arrive (Traffic.init fun i => if i then [t] else [s]) [false, true, false, false]).listener =
      listen (recv start (header s.length)) [t, nextPart s 0, nextPart s LOC_MSG_BUF_LEN] := by
  have hlong : send s = header s.length :: sendParts s s.length 0 :=
    send_of_long (by omega) (by rw [hlen]; decide)
  have hshort : send t = [t] := send_of_short (by rw [ht]; decide)
  have hparts : sendParts s s.length 0 = [nextPart s 0, nextPart s LOC_MSG_BUF_LEN] := by
    have hpart : partLen s.length = LOC_MSG_BUF_LEN := by rw [hlen]; rfl
    rw [sendParts_of_lt (by omega), Nat.sub_zero, Nat.zero_add, hpart, sendParts_of_lt (by omega),
      sendParts_of_le (by rw [hlen]; decide)]
  simp [run, arrive, Traffic.init, Sender.queue, hlong, hshort, hparts, listen]

/-- A string that arrives behind the header of a long one becomes part of it. -/
theorem foreign_datagram_swallowed :
    let sends : Bool → List Bytes := fun i =>
      if i then [bytesOf ['b']] else [List.replicate 8193 97]
    let w := run arrive (Traffic.init sends) [false, true, false, false]
    (∀ i, ∀ s ∈ sends i, Plain s) ∧ (∀ i, (w.senders i).unsent = []) ∧
      bytesOf ['b'] ∉ w.listener.received := by
  intro sends w
  have hplain : ∀ i, ∀ s ∈ sends i, Plain s := by decide +kernel
  have hall : ∀ i, (w.senders i).unsent = [] := by decide +kernel
  refine ⟨hplain, hall, ?_⟩
  have hlen : (List.replicate 8193 (97 : UInt8)).length = LOC_MSG_BUF_LEN + 1 :=
    List.length_replicate
  have hclean : CleanRead [] (List.replicate 8193 97) := by decide +kernel
  obtain ⟨hstate, hsame⟩ := @recv_header _ [] start rfl rfl (by rw [hlen]; decide) hclean
  rw [show w.listener = _ from listener_of_interrupted hlen rfl]
  exact foreign_not_received hstate hlen rfl (by decide +kernel) hsame

end DeviceHal.Utils.LocIpc
