import DeviceHal.Utils.IpcFraming

/-! # The strings of one sender

Every string that is read clean arrives as it was sent. The first one that is
not leaves the listener behind: it has handed over fewer strings than have
begun to arrive, and no datagram can make up for it. -/
namespace DeviceHal.Utils.LocIpc
open DeviceHal.Lib.Buffer DeviceHal.Lib.CText DeviceHal.Lib.Run

/-- A string that does not look like a header or like the abort message. -/
def Plain (s : Bytes) : Prop := s ≠ [] ∧ ¬ LOC_MSG_HEAD <+: s ∧ ¬ LOC_MSG_ABORT <+: s

instance Plain.decidable (s : Bytes) : Decidable (Plain s) := by
  unfold Plain
  infer_instance

theorem listen_flatMap_cons (ℓ : Listener) (s : Bytes) (ss : List Bytes) :
    listen ℓ ((s :: ss).flatMap send) = listen (listen ℓ (send s)) (ss.flatMap send) := by
  simp [listen, run]

/-! ## What one datagram can do -/

section
variable {ℓ : Listener} {d : Bytes}

/-- Nothing is handed over and the listener is not among parts. -/
def Silent (ℓ ℓ' : Listener) : Prop :=
  ℓ'.received = ℓ.received ∧ ∀ r, ℓ'.position ≠ .inner r

theorem recv_outer_cases (hpos : ℓ.position = .outer) (hd : d.length ≤ LOC_MSG_BUF_LEN) :
    Silent ℓ (recv ℓ d) ∨
    (∃ x, recv ℓ d = ℓ.onReceive x ∧
      (x = [] ∨ x = d ∧ ¬ LOC_MSG_ABORT <+: d ++ leftover ℓ.msg d.length ∧
        ¬ LOC_MSG_HEAD <+: d ++ leftover ℓ.msg d.length)) ∨
    ((recv ℓ d).received = ℓ.received ∧ (recv ℓ d).position = .inner 0 ∧
      0 < (recv ℓ d).msg.length ∧
      (recv ℓ d).msg.length = sscanfMsgLen (d ++ leftover ℓ.msg d.length) 0) := by
  rw [recv_outer hpos rfl hd]
  split
  · exact .inl ⟨rfl, fun r => by simp [hpos]⟩
  split
  · exact .inl ⟨rfl, fun _ hr => by cases hr⟩
  split
  · rename_i habort hhead
    exact .inr (.inl ⟨d, rfl, .inr ⟨rfl, habort, hhead⟩⟩)
  · dsimp only
    split
    · rename_i hlen
      refine .inr (.inr ⟨rfl, rfl, ?_, length_resize 0 _ _⟩)
      rw [length_resize]
      exact hlen
    · exact .inr (.inl ⟨[], rfl, .inl rfl⟩)

theorem recv_inner_cases {r : Nat} (hpos : ℓ.position = .inner r) :
    Silent ℓ (recv ℓ d) ∨
    (∃ x, recv ℓ d = ℓ.onReceive x ∧ x.length = ℓ.msg.length ∧ ℓ.msg.length ≤ r + d.length) ∨
    ((recv ℓ d).received = ℓ.received ∧ (recv ℓ d).msg.length = ℓ.msg.length ∧
      ∃ n, n ≤ d.length ∧ (recv ℓ d).position = .inner (r + n)) := by
  simp only [recv, hpos, Listener.recvPart]
  split
  · exact .inl ⟨rfl, fun _ hr => by cases hr⟩
  split
  · exact .inr (.inr ⟨rfl, length_recvInto _ _ _, _, Nat.min_le_left _ _, rfl⟩)
  · exact .inr (.inl ⟨_, rfl, length_recvInto _ _ _, by omega⟩)

theorem recv_cases (ℓ : Listener) (d : Bytes) :
    (recv ℓ d).received = ℓ.received ∨ ∃ x, recv ℓ d = ℓ.onReceive x := by
  unfold recv
  split
  · unfold Listener.recvMessage
    dsimp only
    split_ifs
    · exact .inl rfl
    · exact .inl rfl
    · exact .inr ⟨_, rfl⟩
    · exact .inl rfl
    · exact .inr ⟨_, rfl⟩
  · unfold Listener.recvPart
    dsimp only
    split_ifs
    · exact .inl rfl
    · exact .inl rfl
    · exact .inr ⟨_, rfl⟩
  · exact .inl rfl

end

/-! ## Falling behind -/

/-- `s` has begun to arrive after the strings `done`, and `left` bytes of its
parts are still to come. If what was handed over is right so far, it does not
include `s`, and the bytes left cannot complete a message as long as `s`. -/
def Behind (done : List Bytes) (s : Bytes) (rest : List Bytes) (left : Nat) (ℓ : Listener) : Prop :=
  ℓ.received <+: done ++ s :: rest →
    ℓ.received.length ≤ done.length ∧
      (ℓ.received.length = done.length → ∀ r, ℓ.position = .inner r →
        ℓ.msg.length = s.length → left < ℓ.msg.length - r)

section
variable {done rest : List Bytes} {s : Bytes} {left : Nat} {ℓ : Listener}

theorem eq_of_prefix_concat {x : Bytes} (hlen : ℓ.received.length = done.length)
    (hpre : ℓ.received ++ [x] <+: done ++ s :: rest) : x = s := by
  have hget := hpre.getElem (i := done.length) (by simp [hlen])
  simpa [hlen, List.getElem_append_right] using hget

/-- A string that is handed over is not `s`, or comes before it. -/
theorem Behind.onReceive {x : Bytes} {left' : Nat} (h : Behind done s rest left ℓ)
    (hx : ℓ.received.length = done.length → x ≠ s) : Behind done s rest left' (ℓ.onReceive x) := by
  intro hpre
  have hlen : (ℓ.onReceive x).received.length = ℓ.received.length + 1 := List.length_append
  obtain ⟨hle, _⟩ := h ((List.prefix_append _ _).trans hpre)
  have hne : ℓ.received.length ≠ done.length := fun heq => hx heq (eq_of_prefix_concat heq hpre)
  exact ⟨by omega, fun _ r hr => nomatch hr⟩

theorem Behind.silent {ℓ' : Listener} {left' : Nat} (h : Behind done s rest left ℓ)
    (hs : Silent ℓ ℓ') : Behind done s rest left' ℓ' := by
  obtain ⟨hsame, hpos⟩ := hs
  intro hpre
  rw [hsame] at hpre ⊢
  exact ⟨(h hpre).1, fun _ r hr => absurd hr (hpos r)⟩

/-- A part of `s` does not let the listener catch up. -/
theorem Behind.part {d : Bytes} (h : Behind done s rest (d.length + left) ℓ)
    (hlong : LOC_MSG_BUF_LEN < s.length) (hd : 0 < d.length) (hfits : d.length ≤ LOC_MSG_BUF_LEN)
    (hsum : d.length + left ≤ s.length) : Behind done s rest left (recv ℓ d) := by
  cases hpos : ℓ.position with
  | outer =>
    obtain hs | ⟨x, heq, hx⟩ | ⟨hsame, hin, _⟩ := recv_outer_cases hpos hfits
    · exact h.silent hs
    · rw [heq]
      refine h.onReceive fun _ hxs => ?_
      have hxlen : x.length ≤ LOC_MSG_BUF_LEN := by
        obtain rfl | ⟨rfl, _⟩ := hx
        · exact Nat.zero_le _
        · exact hfits
      rw [hxs] at hxlen
      omega
    · intro hpre
      rw [hsame] at hpre ⊢
      refine ⟨(h hpre).1, fun _ r hr hlen => ?_⟩
      rw [hin, Position.inner.injEq] at hr
      omega
  | inner r =>
    obtain hs | ⟨x, heq, hxlen, hfull⟩ | ⟨hsame, hmsg, n, hn, hin⟩ := @recv_inner_cases ℓ d r hpos
    · exact h.silent hs
    · rw [heq]
      intro hpre
      refine h.onReceive (fun hlen hxs => ?_) hpre
      obtain ⟨_, hroom⟩ := h ((List.prefix_append _ _).trans hpre)
      have hmsg : ℓ.msg.length = s.length := by rw [← hxlen, hxs]
      have := hroom hlen r hpos hmsg
      omega
    · intro hpre
      rw [hsame] at hpre ⊢
      obtain ⟨hle, hroom⟩ := h hpre
      refine ⟨hle, fun hlen r' hr' hmsg' => ?_⟩
      rw [hin, Position.inner.injEq] at hr'
      rw [hmsg] at hmsg' ⊢
      have := hroom hlen r hpos hmsg'
      omega
  | ended =>
    have hsame : recv ℓ d = ℓ := by simp only [recv, hpos]
    rw [hsame]
    exact h.silent ⟨rfl, fun r => by simp [hpos]⟩

/-- Whatever the first datagram of the next string is taken for, the listener
has not handed that string over yet. -/
theorem Behind.next {s' d : Bytes} {left' : Nat} (h : Behind done s (s' :: rest) left ℓ) :
    Behind (done ++ [s]) s' rest left' (recv ℓ d) := by
  intro hpre
  rw [List.append_assoc, List.singleton_append] at hpre
  rw [List.length_append, List.length_singleton]
  obtain hsame | ⟨x, heq⟩ := recv_cases ℓ d
  · rw [hsame] at hpre ⊢
    have hle := (h hpre).1
    exact ⟨by omega, fun hlen => by omega⟩
  · rw [heq] at hpre ⊢
    have hle := (h ((List.prefix_append _ _).trans hpre)).1
    have hlen : (ℓ.onReceive x).received.length = ℓ.received.length + 1 := List.length_append
    exact ⟨by omega, fun _ r hr => nomatch hr⟩

theorem Behind.parts {ps : List Bytes} (h : Behind done s rest ps.flatten.length ℓ)
    (hlong : ps ≠ [] → LOC_MSG_BUF_LEN < s.length)
    (hps : ∀ p ∈ ps, 0 < p.length ∧ p.length ≤ LOC_MSG_BUF_LEN)
    (hsum : ps.flatten.length ≤ s.length) : Behind done s rest 0 (listen ℓ ps) := by
  induction ps generalizing ℓ with
  | nil => exact h
  | cons p ps ih =>
    rw [List.flatten_cons, List.length_append] at h hsum
    obtain ⟨hp, hfits⟩ := hps p (List.mem_cons_self ..)
    have hlong := hlong (List.cons_ne_nil p ps)
    exact ih (h.part hlong hp hfits hsum) (fun _ => hlong)
      (fun q hq => hps q (List.mem_cons_of_mem p hq)) (by omega)

end

/-! ## The datagrams of a string -/

theorem length_sendParts {data : Bytes} {length r : Nat} (hle : length ≤ data.length)
    (hr : r ≤ length) : (sendParts data length r).flatten.length = length - r := by
  rw [sendParts]
  split
  · have hpart := partLen_le (length - r)
    have hpos : 0 < partLen (length - r) := partLen_pos (by omega)
    rw [List.flatten_cons, List.length_append, List.length_take, List.length_drop,
      length_sendParts hle (by omega)]
    omega
  · simp
    omega
termination_by length - r

theorem length_of_mem_sendParts {data : Bytes} {length r : Nat} (hle : length ≤ data.length) :
    ∀ p ∈ sendParts data length r, 0 < p.length ∧ p.length ≤ LOC_MSG_BUF_LEN := by
  rw [sendParts]
  split
  · have hpos : 0 < partLen (length - r) := partLen_pos (by omega)
    have hmax := partLen_le_buf (length - r)
    intro p hp
    obtain rfl | hp := List.mem_cons.mp hp
    · rw [List.length_take, List.length_drop]
      omega
    · exact length_of_mem_sendParts hle p hp
  · exact fun p hp => absurd hp List.not_mem_nil
termination_by length - r

/-- A string goes out as one datagram, followed by parts only if it is long. -/
theorem send_shape (s : Bytes) : ∃ d ps, send s = d :: ps ∧ d.length ≤ LOC_MSG_BUF_LEN ∧
    (ps ≠ [] → LOC_MSG_BUF_LEN < s.length) ∧
    (∀ p ∈ ps, 0 < p.length ∧ p.length ≤ LOC_MSG_BUF_LEN) ∧ ps.flatten.length ≤ s.length := by
  have hle : s.length % 2 ^ 32 ≤ s.length := Nat.mod_le _ _
  have hlt : s.length % 2 ^ 32 < 2 ^ 32 := Nat.mod_lt _ (by decide)
  rw [send, sendData]
  split
  · rename_i hshort
    refine ⟨_, [], rfl, ?_, fun h => absurd rfl h, fun p hp => absurd hp List.not_mem_nil,
      Nat.zero_le _⟩
    rw [List.length_take]
    omega
  · refine ⟨_, _, rfl, Nat.le_trans (length_header_le hlt) (by decide), fun _ => by omega,
      length_of_mem_sendParts hle, ?_⟩
    rw [length_sendParts hle (Nat.zero_le _)]
    omega

/-! ## The first read that is not clean -/

theorem behind_of_not_clean {done rest : List Bytes} {s prev d : Bytes} {ps : List Bytes}
    {ℓ : Listener} (hpos : ℓ.position = .outer) (hmsg : ℓ.msg = prev) (hrec : ℓ.received = done)
    (hne : s ≠ []) (hclean : ¬ CleanRead prev s) (hsend : send s = d :: ps) :
    Behind done s rest ps.flatten.length (recv ℓ d) := by
  have hstart : ∀ left, Behind done s rest left ℓ := fun left _ =>
    ⟨Nat.le_of_eq (congrArg List.length hrec), fun _ r hr => by simp [hpos] at hr⟩
  obtain ⟨d', ps', hsend', hfits, _⟩ := send_shape s
  obtain ⟨rfl, rfl⟩ := List.cons.inj (hsend'.symm.trans hsend)
  have hcases := recv_outer_cases hpos hfits
  rw [hmsg] at hcases
  have hle : s.length % 2 ^ 32 ≤ s.length := Nat.mod_le _ _
  have hlt : s.length % 2 ^ 32 < 2 ^ 32 := Nat.mod_lt _ (by decide)
  rw [send, sendData] at hsend
  split at hsend
  · rename_i hshort
    obtain ⟨rfl, rfl⟩ := List.cons.inj hsend
    obtain hs | ⟨x, heq, hx⟩ | ⟨hsame, hin, hpositive, _⟩ := hcases
    · exact (hstart 0).silent hs
    · rw [heq]
      refine (hstart 0).onReceive fun _ hxs => ?_
      obtain rfl | ⟨rfl, htext⟩ := hx
      · exact hne hxs.symm
      · -- the whole string was handed over, so its text was read clean
        rw [hxs] at htext
        have hall : s.length ≤ s.length % 2 ^ 32 := by
          have := congrArg List.length hxs
          rw [List.length_take] at this
          omega
        exact hclean ⟨by omega, by rw [if_pos (by omega)]; exact htext⟩
    · intro _
      rw [hsame, hrec]
      refine ⟨Nat.le_refl _, fun _ r hr _ => ?_⟩
      rw [hin, Position.inner.injEq] at hr
      exact hr ▸ hpositive
  · rename_i hlong
    obtain ⟨rfl, rfl⟩ := List.cons.inj hsend
    obtain hs | ⟨x, heq, hx⟩ | ⟨hsame, hin, _, hlen⟩ := hcases
    · exact (hstart 0).silent hs
    · rw [heq]
      refine (hstart 0).onReceive fun _ hxs => ?_
      obtain rfl | ⟨rfl, _, hhead⟩ := hx
      · exact hne hxs.symm
      · exact hhead (head_prefix_header _ _)
    · intro _
      rw [hsame, hrec]
      refine ⟨Nat.le_refl _, fun _ r hr hmsglen => ?_⟩
      rw [hin, Position.inner.injEq] at hr
      rw [length_sendParts hle (Nat.zero_le _), hmsglen, ← hr]
      -- all of the string was announced, so the header was read clean
      by_contra hall
      have heq : s.length % 2 ^ 32 = s.length := by omega
      rw [hmsglen, heq] at hlen
      have hdigit := (sscanfMsgLen_header_iff (by omega) (by omega) _).mp hlen.symm
      exact hclean ⟨by omega, by rw [if_neg (by omega)]; exact hdigit⟩

theorem Behind.rest {done rest : List Bytes} {s : Bytes} {ℓ : Listener}
    (h : Behind done s rest 0 ℓ) : (listen ℓ (rest.flatMap send)).received ≠ done ++ s :: rest := by
  induction rest generalizing done s ℓ with
  | nil =>
    intro hall
    have hall : ℓ.received = done ++ [s] := hall
    have hprefix : ℓ.received <+: done ++ [s] := hall ▸ List.prefix_rfl
    have hle := (h hprefix).1
    rw [hall, List.length_append, List.length_singleton] at hle
    omega
  | cons s' rest ih =>
    obtain ⟨d, ps, hsend, _, hlong, hps, hsum⟩ := send_shape s'
    have hnext : Behind (done ++ [s]) s' rest ps.flatten.length (recv ℓ d) := h.next
    have hstep := ih (hnext.parts hlong hps hsum)
    rw [List.append_assoc, List.singleton_append] at hstep
    rw [listen_flatMap_cons, hsend]
    exact hstep

/-! ## The round trip -/

theorem round_trip_from {ss done : List Bytes} {prev : Bytes} {ℓ : Listener}
    (hplain : ∀ s ∈ ss, Plain s) (hpos : ℓ.position = .outer) (hmsg : ℓ.msg = prev)
    (hrec : ℓ.received = done) :
    (listen ℓ (ss.flatMap send)).received = done ++ ss ↔
      List.IsChain CleanRead (prev :: ss) := by
  induction ss generalizing ℓ done prev with
  | nil => exact iff_of_true (by rw [List.append_nil]; exact hrec) (.singleton prev)
  | cons s ss ih =>
    have hne : s ≠ [] := (hplain s (List.mem_cons_self ..)).1
    rw [List.isChain_cons_cons, listen_flatMap_cons]
    by_cases hclean : CleanRead prev s
    · have hstep := listen_send hpos (by rw [hmsg]) hne hclean
      have hrest := @ih (done ++ [s]) s (ℓ.onReceive s)
        (fun t ht => hplain t (List.mem_cons_of_mem s ht)) rfl rfl (by rw [Listener.onReceive, hrec])
      rw [hstep, and_iff_right hclean, ← hrest, List.append_assoc, List.singleton_append]
    · obtain ⟨d, ps, hsend, _, hlong, hps, hsum⟩ := send_shape s
      have hbehind : Behind done s ss ps.flatten.length (recv ℓ d) :=
        behind_of_not_clean hpos hmsg hrec hne hclean hsend
      rw [hsend]
      exact iff_of_false (hbehind.parts hlong hps hsum).rest fun h => hclean h.1

/-- **A sequence of strings arrives as it was sent, one `onReceive` per string,
exactly if every string is read clean behind the one before it.** -/
theorem strings_arrive_iff (ss : List Bytes) (hplain : ∀ s ∈ ss, Plain s) :
    (listen start (ss.flatMap send)).received = ss ↔ List.IsChain CleanRead ([] :: ss) := by
  exact round_trip_from hplain rfl rfl rfl

theorem strings_arrive_iff_two :
    (listen start ([bytesOf ['o', 'n', 'e'], bytesOf ['t', 'w', 'o']].flatMap send)).received =
      [bytesOf ['o', 'n', 'e'], bytesOf ['t', 'w', 'o']] :=
  (strings_arrive_iff _ (by decide)).mpr (by decide +kernel)

/-- The tail of the first string turns the second one into the abort message. -/
theorem leftover_completes_abort :
    let ss := [bytesOf ['-', '-', '-', '-', '-', '-', 'M', 's', 'g', ':', ':', 'A', 'B', 'O', 'R', 'T'],
      bytesOf ['L', 'o', 'c', 'I', 'p', 'c']]
    (∀ s ∈ ss, Plain s) ∧
      (listen start (ss.flatMap send)).position = .ended ∧
      (listen start (ss.flatMap send)).received ≠ ss := by
  decide +kernel

end DeviceHal.Utils.LocIpc
