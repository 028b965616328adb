import JsonSchema.Digest
/-!
# The layout of hashed bytes

Where the bytes of a value end is told by the bytes themselves: a payload comes after its length, and
an object ends at the first byte `7D` that stands where a hash would begin. So what is written in
front of other bytes is found again (`Hasher.tagged_append_inj`, `Hasher.numberBytes_append_inj`,
`Hasher.objectBytes_append_inj`).
-/

namespace JsonSchema

theorem Utf8.bytes_injective : Function.Injective Utf8.bytes := by
  intro s t h
  have encoded (s : String) : (Utf8.bytes s).toByteArray = s.toByteArray := String.utf8Encode_toList
  exact String.toByteArray_inj.1 (by rw [← encoded, ← encoded, h])

/-! ### The length of a hash -/

theorem Sha256.length_bigEndian (count n : Nat) : (bigEndian count n).length = count := by
  simp [bigEndian]

theorem Sha256.length_hash (message : Bytes) : (hash message).length = 32 := by
  simp [hash, State.bytes, length_bigEndian]

namespace Hasher

variable {r r' : Bytes}

/-! ### Lengths and payloads -/

theorem length_littleEndian (n : Nat) : (littleEndian n).length = 8 := by simp [littleEndian]

/-- Numbers of `k` digits are told apart by them. -/
theorem eq_of_digits {k m n : Nat} (hm : m < Nat.pow 256 k) (hn : n < Nat.pow 256 k)
    (h : ∀ i < k, m / Nat.pow 256 i % 256 = n / Nat.pow 256 i % 256) : m = n := by
  induction k generalizing m n with
  | zero => exact (Nat.lt_one_iff.1 hm).trans (Nat.lt_one_iff.1 hn).symm
  | succ k ih =>
    have last : m % 256 = n % 256 := by simpa using h 0 (by omega)
    have digit (a i : Nat) : a / Nat.pow 256 (i + 1) = a / 256 / Nat.pow 256 i := by
      rw [Nat.div_div_eq_div_mul, Nat.mul_comm]
      rfl
    have rest : m / 256 = n / 256 := by
      refine ih (Nat.div_lt_of_lt_mul ?_) (Nat.div_lt_of_lt_mul ?_) fun i hi => ?_
      · rwa [Nat.mul_comm]
      · rwa [Nat.mul_comm]
      · rw [← digit, ← digit]
        exact h (i + 1) (by omega)
    omega

theorem littleEndian_inj {m n : Nat} (hm : m < UInt64.size) (hn : n < UInt64.size)
    (h : littleEndian m = littleEndian n) : m = n := by
  refine eq_of_digits (k := 8) hm hn fun i hi => ?_
  have digit := congrArg (fun bs => bs[i]?.map UInt8.toNat) h
  simpa [littleEndian, hi] using digit

theorem tagged_append_inj {tag tag' : UInt8} {p p' : Bytes} (hp : p.length < UInt64.size)
    (hp' : p'.length < UInt64.size) (h : tagged tag p ++ r = tagged tag' p' ++ r') :
    tag = tag' ∧ p = p' ∧ r = r' := by
  simp only [tagged, List.cons_append, List.append_assoc, List.cons.injEq] at h
  obtain ⟨rfl, h⟩ := h
  obtain ⟨lengths, h⟩ := List.append_inj h (by rw [length_littleEndian, length_littleEndian])
  obtain ⟨rfl, rfl⟩ := List.append_inj h (littleEndian_inj hp hp' lengths)
  exact ⟨rfl, rfl, rfl⟩

/-! ### Numbers -/

/-- What is written of a number after its tag: 64 bits. -/
theorem tagged_word_append_inj {tag tag' : UInt8} {x y : UInt64}
    (h : tagged tag (littleEndian x.toNat) ++ r = tagged tag' (littleEndian y.toNat) ++ r') :
    tag = tag' ∧ x = y ∧ r = r' := by
  obtain ⟨rfl, words, rfl⟩ := tagged_append_inj (by rw [length_littleEndian]; decide)
    (by rw [length_littleEndian]; decide) h
  exact ⟨rfl, UInt64.toNat_inj.1 (littleEndian_inj x.toNat_lt_size y.toNat_lt_size words), rfl⟩

theorem numberBytes_append_inj {m n : Number} (h : numberBytes m ++ r = numberBytes n ++ r') :
    m.canonical = n.canonical ∧ r = r' := by
  simp only [numberBytes] at h
  cases hm : m.canonical <;> cases hn : n.canonical <;> rw [hm, hn] at h <;>
    obtain ⟨tag, word, rest⟩ := tagged_word_append_inj h
  case signed.signed => exact ⟨congrArg (Number.signed ⟨·⟩) word, rest⟩
  case unsigned.unsigned => exact ⟨congrArg _ word, rest⟩
  case float.float => exact ⟨congrArg (Number.float ⟨·⟩) word, rest⟩
  all_goals exact absurd tag (by decide)

/-! ### Objects -/

/-- Hashes that do not begin with the closing byte are told apart from what comes after them. -/
theorem flatten_append_inj {ds ds' : List Digest}
    (hds : ∀ d ∈ ds, d.length = 32 ∧ d.head? ≠ some 0x7D)
    (hds' : ∀ d ∈ ds', d.length = 32 ∧ d.head? ≠ some 0x7D)
    (h : ds.flatten ++ 0x7D :: r = ds'.flatten ++ 0x7D :: r') : ds = ds' ∧ r = r' := by
  -- a hash does not begin where the object ends
  have apart : ∀ {d : Digest} {s s' : Bytes}, d.length = 32 ∧ d.head? ≠ some 0x7D →
      0x7D :: s ≠ d ++ s' := by
    rintro (_ | ⟨b, d⟩) s s' ⟨length, head⟩ h
    · cases length
    · exact head (by simpa using (List.cons.inj h).1.symm)
  induction ds generalizing ds' with
  | nil =>
    cases ds' with
    | nil => exact ⟨rfl, (List.cons.inj h).2⟩
    | cons d' ds' =>
      rw [List.flatten_nil, List.nil_append, List.flatten_cons, List.append_assoc] at h
      exact absurd h (apart (List.forall_mem_cons.1 hds').1)
  | cons d ds ih =>
    rw [List.forall_mem_cons] at hds
    rw [List.flatten_cons, List.append_assoc] at h
    cases ds' with
    | nil => exact absurd h.symm (apart hds.1)
    | cons d' ds' =>
      rw [List.forall_mem_cons] at hds'
      rw [List.flatten_cons, List.append_assoc d'] at h
      obtain ⟨rfl, rest⟩ := List.append_inj h (hds.1.1.trans hds'.1.1.symm)
      obtain ⟨rfl, rfl⟩ := ih hds.2 hds'.2 rest
      exact ⟨rfl, rfl⟩

theorem objectBytes_append_inj {ds ds' : List Digest}
    (hds : ∀ d ∈ ds, d.length = 32 ∧ d.head? ≠ some 0x7D)
    (hds' : ∀ d ∈ ds', d.length = 32 ∧ d.head? ≠ some 0x7D)
    (h : objectBytes ds ++ r = objectBytes ds' ++ r') : ds.Perm ds' ∧ r = r' := by
  have sorted (ds : List Digest) := List.mergeSort_perm ds fun a b => decide (a ≤ b)
  simp only [objectBytes, List.cons_append, List.append_assoc, List.nil_append, List.cons.injEq,
    true_and] at h
  obtain ⟨same, rest⟩ := flatten_append_inj (fun d hd => hds d ((sorted ds).mem_iff.1 hd))
    (fun d hd => hds' d ((sorted ds').mem_iff.1 hd)) h
  exact ⟨(sorted ds).symm.trans (same ▸ sorted ds'), rest⟩

end Hasher
end JsonSchema
