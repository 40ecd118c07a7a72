import Mathlib.Data.List.Induction
import Mathlib.Tactic.Push
import Fleetwire.Frame.Buffer

namespace Fleetwire

namespace Bytes

theorem toNat_lt_span (bs : Bytes) : toNat bs < span bs.length := by
  induction bs using List.reverseRecOn with
  | nil => decide
  | append_singleton bs b ih =>
    have byte := b.toNat_lt
    rw [toNat_append_singleton, List.length_append, List.length_singleton, span]
    omega

theorem bigEndian_toNat (bs : Bytes) : bigEndian bs.length (toNat bs) = bs := by
  induction bs using List.reverseRecOn with
  | nil => rfl
  | append_singleton bs b ih =>
    have byte := b.toNat_lt
    have high : (toNat bs * 256 + b.toNat) / 256 = toNat bs := by omega
    have low : UInt8.ofNat (toNat bs * 256 + b.toNat) = b := by
      apply UInt8.toNat_inj.mp
      rw [UInt8.toNat_ofNat']
      omega
    rw [toNat_append_singleton, List.length_append, List.length_singleton, bigEndian, high, low, ih]

end Bytes

namespace Frame

variable {limit length : Nat} {bytes payload rest : Bytes} {error : StreamError}

theorem length_encode {frame : Bytes} (encoded : encode payload = .ok frame) :
    frame.length = lengthSize + payload.length := by
  unfold encode at encoded
  split at encoded
  · cases encoded
  · obtain rfl := Except.ok.inj encoded
    rw [List.length_append, Bytes.length_bigEndian]

theorem encode_of_announced (h : announced? bytes = some length)
    (complete : length ≤ (bytes.drop lengthSize).length) :
    encode ((bytes.drop lengthSize).take length) =
      .ok (bytes.take (lengthSize + length)) := by
  have long : lengthSize ≤ bytes.length := by
    unfold announced? at h
    split at h
    · cases h
    · omega
  have counted : (bytes.take lengthSize).length = lengthSize := List.length_take_of_le long
  have value : Bytes.toNat (bytes.take lengthSize) = length := by
    simpa only [announced?, if_neg (Nat.not_lt.mpr long), Option.some.injEq] using h
  have small : length ≤ maxLength := by
    have bound := Bytes.toNat_lt_span (bytes.take lengthSize)
    rw [value, counted] at bound
    simp only [lengthSize, Bytes.span] at bound
    simp only [maxLength]
    omega
  have field : Bytes.bigEndian lengthSize length = bytes.take lengthSize := by
    have h := Bytes.bigEndian_toNat (bytes.take lengthSize)
    rwa [counted, value] at h
  have size : ((bytes.drop lengthSize).take length).length = length := List.length_take_of_le complete
  rw [encode, size, if_neg (by omega), field, List.take_add]

theorem announced?_append (h : announced? bytes = some length) (more : Bytes) :
    announced? (bytes ++ more) = some length := by
  unfold announced? at h ⊢
  split at h
  · cases h
  · rw [if_neg (by rw [List.length_append]; omega), List.take_append_of_le_length (by omega)]
    exact h

theorem decode?_payload (h : decode? limit bytes = .ok (some (payload, rest))) :
    ∃ frame, encode payload = .ok frame ∧ bytes = frame ++ rest ∧ payload.length ≤ limit := by
  unfold decode? at h
  split at h
  · cases h
  · rename_i length announced
    split at h
    · cases h
    · dsimp only at h
      split at h
      · cases h
      · rename_i fits complete
        have complete : length ≤ (bytes.drop lengthSize).length := Nat.not_lt.mp complete
        obtain ⟨rfl, rfl⟩ : (bytes.drop lengthSize).take length = payload ∧
            (bytes.drop lengthSize).drop length = rest := by simpa using h
        refine ⟨_, encode_of_announced announced complete, ?_, ?_⟩
        · rw [List.drop_drop, List.take_append_drop]
        · rw [List.length_take_of_le complete]
          omega

theorem decode?_error :
    decode? limit bytes = .error error ↔
      ∃ length, announced? bytes = some length ∧ limit < length ∧
        error = .frameTooLarge length limit := by
  unfold decode?
  split
  · rename_i unannounced
    simp [unannounced]
  · rename_i length announced
    by_cases oversize : limit < length
    · simp only [gt_iff_lt, if_pos oversize, announced, Option.some.injEq, Except.error.injEq]
      constructor
      · rintro rfl
        exact ⟨length, rfl, oversize, rfl⟩
      · rintro ⟨_, rfl, -, rfl⟩
        rfl
    · have incomplete : ∀ found : Option (Bytes × Bytes), Except.ok found ≠ Except.error error := by
        simp
      rw [if_neg oversize]
      constructor
      · dsimp only
        split <;> exact fun h => absurd h (incomplete _)
      · rintro ⟨_, same, excess, -⟩
        obtain rfl : _ = length := by simpa [announced] using same.symm
        exact absurd excess oversize

theorem decode?_none :
    decode? limit bytes = .ok none ↔ bytes.length < lengthSize ∨
      ∃ length, announced? bytes = some length ∧ length ≤ limit ∧
        (bytes.drop lengthSize).length < length := by
  unfold decode?
  split
  · rename_i unannounced
    have short : bytes.length < lengthSize := by
      by_contra long
      simp [announced?, if_neg long] at unannounced
    simp [short]
  · rename_i length announced
    have long : ¬ bytes.length < lengthSize := by
      intro short
      simp [announced?, if_pos short] at announced
    simp only [long, announced, Option.some.injEq, false_or, exists_eq_left']
    by_cases fits : length ≤ limit
    · rw [if_neg (Nat.not_lt.mpr fits)]
      by_cases short : (bytes.drop lengthSize).length < length
      · simp only [short, fits, ↓reduceIte, and_self]
      · simp only [short, fits, ↓reduceIte, and_false, Except.ok.injEq, reduceCtorEq]
    · simp only [gt_iff_lt, if_pos (Nat.lt_of_not_le fits), fits, false_and, reduceCtorEq]

theorem decode?_encode_append {frame more : Bytes} (encoded : encode payload = .ok frame)
    (fits : payload.length ≤ limit) :
    decode? limit (frame ++ more ++ rest) = .ok (some (payload, more ++ rest)) := by
  rw [List.append_assoc]
  exact decode?_encode encoded fits (more ++ rest)

end Frame

/-- The frames of the payloads, one after the other. -/
inductive Written : List Bytes → Bytes → Prop where
  | nil : Written [] []
  | cons {payload frame : Bytes} {payloads : List Bytes} {bytes : Bytes}
      (encoded : Frame.encode payload = .ok frame) (written : Written payloads bytes) :
      Written (payload :: payloads) (frame ++ bytes)

inductive Rest (limit : Nat) (bytes : Bytes) : Prop where
  | short (h : bytes.length < Frame.lengthSize)
  | unfinished (length : Nat) (announced : Frame.announced? bytes = some length)
      (fits : length ≤ limit) (missing : (bytes.drop Frame.lengthSize).length < length)
  | oversize (length : Nat) (announced : Frame.announced? bytes = some length)
      (excess : limit < length)

/-- The bytes are the frames of these payloads, none of them over the limit, and a rest. -/
structure Cut (limit : Nat) (bytes : Bytes) (payloads : List Bytes) (rest : Bytes) : Prop where
  split : ∃ frames, Written payloads frames ∧ bytes = frames ++ rest
  fits : ∀ payload ∈ payloads, payload.length ≤ limit
  ends : Rest limit rest

namespace Written

variable {payloads others : List Bytes} {payload frame bytes more : Bytes}

theorem append (first : Written payloads bytes) (second : Written others more) :
    Written (payloads ++ others) (bytes ++ more) := by
  induction first with
  | nil => exact second
  | cons encoded _ ih =>
    rw [List.cons_append, List.append_assoc]
    exact .cons encoded ih

theorem concat (written : Written payloads bytes) (encoded : Frame.encode payload = .ok frame) :
    Written (payloads ++ [payload]) (bytes ++ frame) := by
  have last : Written [payload] (frame ++ []) := .cons encoded .nil
  rw [List.append_nil] at last
  exact written.append last

end Written

theorem rest_iff_decode? {limit : Nat} {bytes : Bytes} :
    Rest limit bytes ↔ ∀ found, Frame.decode? limit bytes ≠ .ok (some found) := by
  constructor
  · rintro (h | ⟨length, announced, fits, missing⟩ | ⟨length, announced, excess⟩) found decoded
    · rw [Frame.decode?_none.mpr (.inl h)] at decoded
      cases decoded
    · rw [Frame.decode?_none.mpr (.inr ⟨length, announced, fits, missing⟩)] at decoded
      cases decoded
    · rw [Frame.decode?_error.mpr ⟨length, announced, excess, rfl⟩] at decoded
      cases decoded
  · intro h
    rcases decoded : Frame.decode? limit bytes with error | found
    · obtain ⟨length, announced, excess, -⟩ := Frame.decode?_error.mp decoded
      exact .oversize length announced excess
    · cases found with
      | some found => exact absurd decoded (h found)
      | none =>
        rcases Frame.decode?_none.mp decoded with short | ⟨length, announced, fits, missing⟩
        · exact .short short
        · exact .unfinished length announced fits missing

namespace Cut

variable {limit : Nat} {bytes rest rest' : Bytes} {payloads others : List Bytes}

theorem unique (first : Cut limit bytes payloads rest) (second : Cut limit bytes others rest') :
    payloads = others ∧ rest = rest' := by
  obtain ⟨⟨frames, written, rfl⟩, fits, ends⟩ := first
  obtain ⟨⟨frames', written', same⟩, fits', ends'⟩ := second
  induction written generalizing others frames' with
  | nil =>
    cases written' with
    | nil => exact ⟨rfl, same⟩
    | @cons payload frame payloads bytes encoded =>
      have decoded : Frame.decode? limit (frame ++ bytes ++ rest') =
          .ok (some (payload, bytes ++ rest')) :=
        Frame.decode?_encode_append encoded (fits' _ List.mem_cons_self)
      rw [← same] at decoded
      exact absurd decoded (rest_iff_decode?.mp ends _)
  | @cons payload frame payloads bytes encoded written ih =>
    have decoded : Frame.decode? limit (frame ++ bytes ++ rest) =
        .ok (some (payload, bytes ++ rest)) :=
      Frame.decode?_encode_append encoded (fits _ List.mem_cons_self)
    rw [same] at decoded
    cases written' with
    | nil => exact absurd decoded (rest_iff_decode?.mp ends' _)
    | @cons payload' frame' payloads' bytes' encoded' written' =>
      have decoded' : Frame.decode? limit (frame' ++ bytes' ++ rest') =
          .ok (some (payload', bytes' ++ rest')) :=
        Frame.decode?_encode_append encoded' (fits' _ List.mem_cons_self)
      obtain ⟨rfl, following⟩ : payload = payload' ∧ bytes ++ rest = bytes' ++ rest' := by
        simpa using decoded.symm.trans decoded'
      obtain ⟨rfl, rfl⟩ := ih (fun p h => fits p (List.mem_cons_of_mem _ h))
        (fun p h => fits' p (List.mem_cons_of_mem _ h)) bytes' written' following
      exact ⟨rfl, rfl⟩

theorem ofBytes (limit : Nat) (bytes : Bytes) : ∃ payloads rest, Cut limit bytes payloads rest := by
  by_cases more : ∀ found, Frame.decode? limit bytes ≠ .ok (some found)
  · exact ⟨[], bytes, ⟨[], .nil, rfl⟩, by simp, rest_iff_decode?.mpr more⟩
  · push Not at more
    obtain ⟨⟨payload, following⟩, decoded⟩ := more
    obtain ⟨frame, encoded, split, fits⟩ := Frame.decode?_payload decoded
    have shorter : following.length < bytes.length := by
      have size := Frame.length_encode encoded
      rw [split, List.length_append, size, Frame.lengthSize]
      omega
    obtain ⟨payloads, rest, ⟨frames, written, same⟩, allFit, ends⟩ := ofBytes limit following
    refine ⟨payload :: payloads, rest, ⟨frame ++ frames, .cons encoded written, ?_⟩, ?_, ends⟩
    · rw [split, same, List.append_assoc]
    · simpa [fits] using allFit
termination_by bytes.length

theorem prepend {first : List Bytes} {frames : Bytes} (following : Cut limit bytes payloads rest)
    (written : Written first frames) (fits : ∀ payload ∈ first, payload.length ≤ limit) :
    Cut limit (frames ++ bytes) (first ++ payloads) rest := by
  obtain ⟨⟨others, also, rfl⟩, fits', ends⟩ := following
  refine ⟨⟨frames ++ others, written.append also, (List.append_assoc ..).symm⟩, ?_, ends⟩
  simpa only [List.forall_mem_append] using ⟨fits, fits'⟩

theorem behind {first : List Bytes} {frames : Bytes} (cut : Cut limit (frames ++ bytes) payloads rest)
    (written : Written first frames) (fits : ∀ payload ∈ first, payload.length ≤ limit) :
    ∃ others, payloads = first ++ others ∧ Cut limit bytes others rest := by
  obtain ⟨others, later, following⟩ := ofBytes limit bytes
  obtain ⟨rfl, rfl⟩ := cut.unique (following.prepend written fits)
  exact ⟨others, rfl, following⟩

end Cut

end Fleetwire
