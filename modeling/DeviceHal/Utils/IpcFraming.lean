import DeviceHal.Utils.LocIpc

/-! # What the receive loop makes of a string

The buffer that a datagram is read into still holds what the string before it
left there, and both the kind of the datagram and the length in a header are
read as text from the whole buffer. A read is clean if the bytes behind the
datagram add nothing to that text. The strings of one sender arrive unchanged
exactly if every read is clean: a misread string is not handed over in its
turn, and from then on the listener stays behind the strings that were sent. -/
namespace DeviceHal.Utils.LocIpc
open DeviceHal.Lib.Buffer DeviceHal.Lib.CText DeviceHal.Lib.Run

/-! ## Reads -/

/-- The bytes of the buffer behind the first `n`, when the string before was `prev`. -/
def leftover (prev : Bytes) (n : Nat) : Bytes := (resize 0 LOC_MSG_BUF_LEN prev).drop n

theorem recvInto_msg {prev d : Bytes} (hd : d.length ≤ LOC_MSG_BUF_LEN) :
    recvInto (resize 0 LOC_MSG_BUF_LEN prev) 0 d = d ++ leftover prev d.length :=
  recvInto_zero (by rw [length_resize]; exact hd)

theorem strncmp_abort (msg : Bytes) :
    strncmp msg LOC_MSG_ABORT LOC_MSG_ABORT.length = 0 ↔ LOC_MSG_ABORT <+: msg :=
  strncmp_eq_zero_iff (by decide) msg

theorem strncmp_head (msg : Bytes) :
    strncmp msg LOC_MSG_HEAD LOC_MSG_HEAD.length = 0 ↔ LOC_MSG_HEAD <+: msg :=
  strncmp_eq_zero_iff (by decide) msg

/-- The two texts differ in their first byte. -/
theorem not_abort_of_head {msg : Bytes} (h : LOC_MSG_HEAD <+: msg) : ¬ LOC_MSG_ABORT <+: msg := by
  intro habort
  obtain ⟨t, ht⟩ := h
  obtain ⟨u, hu⟩ := habort
  have hfirst := congrArg List.head? (ht.trans hu.symm)
  cases hfirst

section
variable {ℓ : Listener} {prev d : Bytes}

/-- A datagram at the top of the loop, by what the buffer then reads. -/
theorem recv_outer (hpos : ℓ.position = .outer)
    (hbuf : resize 0 LOC_MSG_BUF_LEN ℓ.msg = resize 0 LOC_MSG_BUF_LEN prev)
    (hd : d.length ≤ LOC_MSG_BUF_LEN) :
    recv ℓ d =
      if d = [] then { ℓ with msg := resize 0 LOC_MSG_BUF_LEN prev }
      else if LOC_MSG_ABORT <+: d ++ leftover prev d.length then
        { ℓ with msg := d ++ leftover prev d.length, position := .ended }
      else if ¬ LOC_MSG_HEAD <+: d ++ leftover prev d.length then ℓ.onReceive d
      else
        let msgLen := sscanfMsgLen (d ++ leftover prev d.length) 0
        if 0 < msgLen then
          { ℓ with msg := resize 0 msgLen (d ++ leftover prev d.length), position := .inner 0 }
        else ℓ.onReceive [] := by
  have hread := @recvInto_msg prev d hd
  have hshort : resize 0 d.length (d ++ leftover prev d.length) = d := by
    rw [resize_of_le 0 (by simp), List.take_left]
  have hempty : resize 0 0 (d ++ leftover prev d.length) = [] := by simp [resize]
  simp only [recv, hpos, Listener.recvMessage, hbuf, length_resize, Nat.min_eq_left hd, hread,
    strncmp_abort, strncmp_head, hshort, ne_eq, List.length_eq_zero_iff]
  by_cases hnil : d = []
  · subst hnil
    simp [leftover]
  · rw [if_neg hnil, if_neg hnil]
    split
    · rfl
    split
    · rfl
    · show (if 0 < sscanfMsgLen (d ++ leftover prev d.length) 0 then _ else _) = _
      split
      · rfl
      · rename_i hlen
        rw [Nat.eq_zero_of_not_pos hlen, hempty]

end

/-! ## Clean reads -/

/-- The bytes the string before left in the buffer add nothing to the text at
the front of this string's first datagram, and the length fits `uint32_t`. -/
def CleanRead (prev s : Bytes) : Prop :=
  s.length < 2 ^ 32 ∧
    if s.length ≤ LOC_MSG_BUF_LEN then
      ¬ LOC_MSG_ABORT <+: s ++ leftover prev s.length ∧
        ¬ LOC_MSG_HEAD <+: s ++ leftover prev s.length
    else (leftover prev (header s.length).length).head?.any isDigit = false

instance CleanRead.decidable (prev s : Bytes) : Decidable (CleanRead prev s) := by
  unfold CleanRead
  infer_instance

theorem length_header_le {n : Nat} (hn : n < 2 ^ 32) : (header n).length ≤ 18 := by
  have hten := length_to_string_le hn
  simp only [header, List.length_append]
  exact Nat.add_le_add (by decide : LOC_MSG_HEAD.length ≤ 8) hten

theorem head_prefix_header (n : Nat) (rest : Bytes) : LOC_MSG_HEAD <+: header n ++ rest := by
  rw [header, List.append_assoc]
  exact List.prefix_append _ _

/-- A header read from the buffer: its digits, and whatever digits follow them. -/
theorem sscanfMsgLen_header (n : Nat) (rest : Bytes) :
    sscanfMsgLen (header n ++ rest) 0 =
      min (decimal (to_string n ++ rest.takeWhile isDigit)) SIZE_MAX := by
  have hhead : LOC_MSG_HEAD.isPrefixOf (header n ++ rest) = true :=
    List.isPrefixOf_iff_prefix.mpr (head_prefix_header n rest)
  have hdrop : (header n ++ rest).drop LOC_MSG_HEAD.length = to_string n ++ rest := by
    rw [header, List.append_assoc, List.drop_left]
  rw [sscanfMsgLen, if_pos hhead, hdrop, scanSize_to_string]
  rfl

/-- The length in a header is read as sent exactly if no digit follows it. -/
theorem sscanfMsgLen_header_iff {n : Nat} (hpos : 0 < n) (hn : n < 2 ^ 32) (rest : Bytes) :
    sscanfMsgLen (header n ++ rest) 0 = n ↔ rest.head?.any isDigit = false := by
  have hmax : n < SIZE_MAX := Nat.lt_trans hn (by decide)
  rw [sscanfMsgLen_header]
  cases rest with
  | nil => simp [Nat.min_eq_left (Nat.le_of_lt hmax)]
  | cons b rest =>
    cases hb : isDigit b with
    | false => simp [hb, Nat.min_eq_left (Nat.le_of_lt hmax)]
    | true =>
      have hmore := le_decimal_append (to_string n) b (rest.takeWhile isDigit)
      rw [decimal_to_string] at hmore
      rw [List.takeWhile_cons_of_pos hb]
      simp only [List.head?_cons, Option.any_some, hb, Bool.true_eq_false, iff_false]
      omega

/-! ## One string, read clean -/

/-- In a long message: the first `r` bytes of `s` have arrived. -/
structure Receiving (s : Bytes) (r : Nat) (ℓ : Listener) : Prop where
  position : ℓ.position = .inner r
  length : ℓ.msg.length = s.length
  front : ℓ.msg.take r = s.take r

/-- The next part of `s` from byte `r` on. -/
def nextPart (s : Bytes) (r : Nat) : Bytes := (s.drop r).take (partLen (s.length - r))

theorem length_nextPart (s : Bytes) (r : Nat) :
    (nextPart s r).length = partLen (s.length - r) := by
  simp only [nextPart, List.length_take, List.length_drop, partLen]
  split <;> omega

theorem take_nextPart (s : Bytes) (r : Nat) :
    s.take (r + partLen (s.length - r)) = s.take r ++ nextPart s r := by
  rw [nextPart, List.take_add]

theorem recv_nextPart {s : Bytes} {r : Nat} {ℓ : Listener} (hr : r < s.length)
    (h : Receiving s r ℓ) :
    if r + partLen (s.length - r) < s.length then
      Receiving s (r + partLen (s.length - r)) (recv ℓ (nextPart s r)) ∧
        (recv ℓ (nextPart s r)).received = ℓ.received
    else recv ℓ (nextPart s r) = ℓ.onReceive s := by
  have hlen := length_nextPart s r
  have hpos : 0 < partLen (s.length - r) := partLen_pos (by omega)
  have hle := partLen_le (s.length - r)
  have hfront := @take_recvInto _ ℓ.msg (nextPart s r) r (by rw [h.length, hlen]; omega)
  rw [hlen, h.front, ← take_nextPart] at hfront
  have hsize := length_recvInto ℓ.msg r (nextPart s r)
  rw [h.length] at hsize
  simp only [recv, h.position, Listener.recvPart, hlen, h.length, Nat.min_eq_left hle,
    Nat.ne_of_gt hpos, if_false]
  split
  · exact ⟨⟨rfl, hsize, hfront⟩, rfl⟩
  · have hall : s.length ≤ r + partLen (s.length - r) := by omega
    rw [List.take_of_length_le (by rw [hsize]; exact hall), List.take_of_length_le hall] at hfront
    rw [hfront]

theorem sendParts_of_lt {s : Bytes} {r : Nat} (hr : r < s.length) :
    sendParts s s.length r =
      nextPart s r :: sendParts s s.length (r + partLen (s.length - r)) := by
  rw [sendParts, dif_pos hr]
  rfl

theorem sendParts_of_le {s : Bytes} {r : Nat} (hr : s.length ≤ r) :
    sendParts s s.length r = [] := by
  rw [sendParts, dif_neg (by omega)]

theorem listen_sendParts {s : Bytes} {r : Nat} {ℓ : Listener} (hr : r < s.length)
    (h : Receiving s r ℓ) : listen ℓ (sendParts s s.length r) = ℓ.onReceive s := by
  have hnext := recv_nextPart hr h
  have hpos : 0 < partLen (s.length - r) := partLen_pos (by omega)
  rw [sendParts_of_lt hr]
  show listen (recv ℓ (nextPart s r)) _ = _
  split at hnext
  · rename_i hmore
    obtain ⟨hstate, hsame⟩ := hnext
    rw [listen_sendParts hmore hstate, Listener.onReceive, hsame]
    rfl
  · rw [hnext, sendParts_of_le (by omega)]
    rfl
termination_by s.length - r

/-- A clean header leaves the listener waiting for the parts. -/
theorem recv_header {s prev : Bytes} {ℓ : Listener} (hpos : ℓ.position = .outer)
    (hbuf : resize 0 LOC_MSG_BUF_LEN ℓ.msg = resize 0 LOC_MSG_BUF_LEN prev)
    (hlong : LOC_MSG_BUF_LEN < s.length) (hclean : CleanRead prev s) :
    Receiving s 0 (recv ℓ (header s.length)) ∧
      (recv ℓ (header s.length)).received = ℓ.received := by
  obtain ⟨hlt, hdigit⟩ := hclean
  rw [if_neg (by omega)] at hdigit
  have hn : 0 < s.length := by omega
  have hlen := (sscanfMsgLen_header_iff hn hlt _).mpr hdigit
  have hhead := head_prefix_header s.length (leftover prev (header s.length).length)
  have hne : header s.length ≠ [] := by simp [header, to_string_ne_nil]
  have hfits : (header s.length).length ≤ LOC_MSG_BUF_LEN :=
    Nat.le_trans (length_header_le hlt) (by decide)
  rw [recv_outer hpos hbuf hfits, if_neg hne, if_neg (not_abort_of_head hhead),
    if_neg (not_not_intro hhead)]
  simp only [hlen, hn, if_true, and_true]
  exact ⟨rfl, length_resize 0 _ _, rfl⟩

theorem send_of_short {s : Bytes} (hs : s.length ≤ LOC_MSG_BUF_LEN) : send s = [s] := by
  have hlt : s.length < 2 ^ 32 := Nat.lt_of_le_of_lt hs (by decide)
  rw [send, Nat.mod_eq_of_lt hlt, sendData, if_pos hs, List.take_length]

theorem send_of_long {s : Bytes} (hs : LOC_MSG_BUF_LEN < s.length) (hlt : s.length < 2 ^ 32) :
    send s = header s.length :: sendParts s s.length 0 := by
  rw [send, Nat.mod_eq_of_lt hlt, sendData, if_neg (by omega)]

/-- A short string that is read clean is handed over. -/
theorem recv_short {s prev : Bytes} {ℓ : Listener} (hpos : ℓ.position = .outer)
    (hbuf : resize 0 LOC_MSG_BUF_LEN ℓ.msg = resize 0 LOC_MSG_BUF_LEN prev)
    (hne : s ≠ []) (hshort : s.length ≤ LOC_MSG_BUF_LEN) (hclean : CleanRead prev s) :
    recv ℓ s = ℓ.onReceive s := by
  obtain ⟨_, htext⟩ := hclean
  rw [if_pos hshort] at htext
  rw [recv_outer hpos hbuf hshort, if_neg hne, if_neg htext.1, if_pos htext.2]

/-- A string that is read clean is handed over once all its datagrams are in. -/
theorem listen_send {s prev : Bytes} {ℓ : Listener} (hpos : ℓ.position = .outer)
    (hbuf : resize 0 LOC_MSG_BUF_LEN ℓ.msg = resize 0 LOC_MSG_BUF_LEN prev)
    (hne : s ≠ []) (hclean : CleanRead prev s) : listen ℓ (send s) = ℓ.onReceive s := by
  by_cases hshort : s.length ≤ LOC_MSG_BUF_LEN
  · rw [send_of_short hshort]
    exact recv_short hpos hbuf hne hshort hclean
  · have hlong : LOC_MSG_BUF_LEN < s.length := by omega
    obtain ⟨hstate, hsame⟩ := recv_header hpos hbuf hlong hclean
    rw [send_of_long hlong hclean.1]
    show listen (recv ℓ (header s.length)) _ = _
    rw [listen_sendParts (by omega) hstate, Listener.onReceive, hsame]
    rfl

end DeviceHal.Utils.LocIpc
