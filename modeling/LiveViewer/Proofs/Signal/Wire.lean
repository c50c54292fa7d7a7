import LiveViewer.Proofs.Json.ReadBack
import LiveViewer.Signal.Channel

/-!
# Signal messages survive the wire

A signal message goes out as one text frame, `{"Tag":{...}}`: its tag holding the object of its
fields under their wire names, an absent optional field written `null`. This module shows that
the frame reader gives back exactly the message that was written, for every message: texts with
quotes, backslashes and control characters, any media section name or none, and any section
index or none (`wire_roundTrip`).

Each field's reader is shown to read the value the writer printed for it (`textField_read`,
`option_indexValue`), then each message's members are read one after the other by the object
reader of `ReadBack` (`content_fields`, one case per message).
-/

namespace LiveViewer

open Json Json.Reader Json.Decode

namespace SignalMessage

theorem encode_toList (m : SignalMessage) :
    m.encode.toList =
      '{' :: ((quote m.tag).toList ++ ':' :: '{' :: ((writeMembers m.fields).toList ++ ['}', '}'])) := by
  simp [encode, toValue, Value.write, writeMembers]

theorem tag_mem_tags (m : SignalMessage) : tags.contains m.tag = true := by
  cases m <;> simp [tags, tag]

/-- An optional section index, written as its digits or as null, is read back when a comma or a
closing brace follows it. -/
theorem option_indexValue (o : Option UInt16) {x : Char} (hx : x = ',' ∨ x = '}')
    (r : List Char) (d : Nat) :
    option u16 ⟨(indexValue o).write.toList ++ x :: r, d⟩ = .ok (o.map UInt16.toNat) ⟨x :: r, d⟩ := by
  cases o with
  | none => exact option_null u16 (x :: r) d
  | some n =>
    have hn : n.toNat ≤ u64Max := by have := UInt16.toNat_lt n; unfold u64Max; omega
    have hv := u16_toDigits n hx r d
    cases hcd : Nat.toDigits 10 n.toNat with
    | nil => exact absurd hcd Nat.toDigits_ne_nil
    | cons c ds =>
      -- the first digit starts the value, so the reader does not take it for a null
      have hdig : c.isDigit = true :=
        Nat.isDigit_of_mem_toDigits (by decide) (by decide) (hcd ▸ List.mem_cons_self)
      have hc : c ≠ 'n' := by rintro rfl; exact absurd hdig (by decide)
      simp only [hcd, List.cons_append] at hv
      simp only [indexValue, write_nat hn, hcd, List.cons_append, Option.map_some]
      exact option_some (isBlank_of_isDigit hdig) hc hv

/-- The content of every message, written as the object of its fields, is read back to the
message wherever the depth leaves room for one more level. -/
theorem content_fields (m : SignalMessage) {d : Nat} (hd : 1 < d) (r : List Char) :
    content m.tag ⟨'{' :: ((writeMembers m.fields).toList ++ '}' :: r), d⟩ = .ok m ⟨r, d⟩ := by
  cases m with
  | offer k s =>
    simp +decide only [content, tag, fields, ↓reduceIte]
    refine Eq.trans (bind_ok (record_object _ hd
      (fieldsFromObject_apply 2 (k, s) ["sdp", "stream_key"] ?_ (fun fuel => ?_) rfl))) ?_
    · simp only [writeMembers_cons, writeMembers_single, List.length_append, List.length_cons]
      omega
    · simp only [writeMembers_cons, writeMembers_single, Value.write, List.append_assoc,
        List.cons_append]
      rw [go_first rfl rfl (read_store (string_quote _ _ _)),
        go_next rfl rfl (read_store (string_quote _ _ _)), go_close]
    · rfl
  | answer s =>
    simp +decide only [content, tag, fields, ↓reduceIte]
    refine Eq.trans (bind_ok (record_object _ hd
      (fieldsFromObject_apply 1 s ["sdp"] ?_ (fun fuel => ?_) rfl))) ?_
    · simp only [writeMembers_single, List.length_append, List.length_cons]
      omega
    · simp only [writeMembers_single, Value.write, List.append_assoc, List.cons_append]
      rw [go_first rfl rfl (read_store (string_quote _ _ _)), go_close]
    · rfl
  | iceCandidate c mid i =>
    simp +decide only [content, tag, fields, ↓reduceIte]
    refine Eq.trans (bind_ok (record_object _ hd
      (fieldsFromObject_apply 3 (c, mid, i.map UInt16.toNat)
        ["sdp_mline_index", "sdp_mid", "candidate"] ?_ (fun fuel => ?_) rfl))) ?_
    · simp only [writeMembers_cons, writeMembers_single, List.length_append, List.length_cons]
      omega
    · simp only [writeMembers_cons, writeMembers_single, Value.write, List.append_assoc,
        List.cons_append]
      rw [go_first rfl rfl (read_store (string_quote _ _ _)),
        go_next rfl rfl (read_store (option_optString _ _ _)),
        go_next rfl rfl (read_store (option_indexValue _ (.inr rfl) _ _)), go_close]
    · cases i <;> simp [pure_apply]
  | error msg =>
    simp +decide only [content, tag, fields, ↓reduceIte]
    refine Eq.trans (bind_ok (record_object _ hd
      (fieldsFromObject_apply 1 msg ["message"] ?_ (fun fuel => ?_) rfl))) ?_
    · simp only [writeMembers_single, List.length_append, List.length_cons]
      omega
    · simp only [writeMembers_single, Value.write, List.append_assoc, List.cons_append]
      rw [go_first rfl rfl (read_store (string_quote _ _ _)), go_close]
    · rfl

/-- The decoder reads a message's frame back to the message, whatever follows the frame. -/
theorem decoder_encode (m : SignalMessage) (r : List Char) :
    decoder ⟨m.encode.toList ++ r, 128⟩ = .ok m ⟨r, 128⟩ := by
  have hc : content m.tag ⟨('{' :: ((writeMembers m.fields).toList ++ ['}'])) ++ '}' :: r, 128 - 1⟩ =
      .ok m ⟨'}' :: r, 128 - 1⟩ := by
    simpa using content_fields m (show 1 < 127 by decide) ('}' :: r)
  -- the frame is the tag, a colon and the content, before the closing brace
  have htext : m.encode.toList ++ r = '{' :: ((quote m.tag).toList ++
      ':' :: (('{' :: ((writeMembers m.fields).toList ++ ['}'])) ++ '}' :: r)) := by
    simp [encode_toList]
  simp only [decoder, htext]
  exact variant_object (show 1 < 128 by decide) (tag_mem_tags m) hc

theorem ofFrame_encode (m : SignalMessage) : Inbound.ofFrame m.encode = .message m := by
  have h := run_ok (show decoder ⟨m.encode.toList, 128⟩ = .ok m ⟨[], 128⟩ by
    simpa using decoder_encode m [])
  simp [Inbound.ofFrame, h]

/-- Every signal message goes out as the one-member object of its tag holding its fields under
their wire names, the frame reader gives the message back, and a send on an open channel hands
over exactly that frame. -/
theorem wire_roundTrip (m : SignalMessage) :
    m.encode = "\x7b" ++ quote m.tag ++ ":\x7b" ++ writeMembers m.fields ++ "\x7d\x7d" ∧
      Inbound.ofFrame m.encode = .message m ∧
      ∀ (c : SignalingChannel) (far : Mailbox),
        (c.send far m).2.frames = far.frames ++ (if c.isOpen far then [m.encode] else []) := by
  refine ⟨?_, ofFrame_encode m, fun c far => SignalingChannel.send_frames c far m⟩
  rw [← String.toList_inj, encode_toList]
  simp

end SignalMessage

end LiveViewer
