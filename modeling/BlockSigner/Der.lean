import Mathlib.Data.List.Basic

/-! # Distinguished encodings

The elements of DER with a one-octet identifier, as a relation between a content
and its encoding. Length octets tell by themselves where they end and which
length they stand for, so an encoding that is read from the front of a text has
one content and one end.
-/

namespace Der

/-- The number that octets stand for, the most significant one first. -/
def number (octets : List UInt8) : Nat := octets.foldl (fun n octet => 256 * n + octet.toNat) 0

/-- Length octets: one octet below 128, otherwise a count of octets and as many
    as the number needs. -/
inductive Length : Nat → List UInt8 → Prop where
  | short : n < 128 → Length n [UInt8.ofNat n]
  | long : octets.length < 127 → octets.head? ≠ some 0 → 128 ≤ number octets →
      Length (number octets) (UInt8.ofNat (128 + octets.length) :: octets)

/-- An identifier octet, the exact length of the content, the content. -/
inductive Element (identifier : UInt8) (content : List UInt8) : List UInt8 → Prop where
  | mk : Length content.length octets →
      Element identifier content (identifier :: (octets ++ content))

/-! ## Reading from the front -/

theorem ofNat_inj {m n : Nat} (hm : m < 256) (hn : n < 256) (same : UInt8.ofNat m = UInt8.ofNat n) :
    m = n := by
  have values := congrArg UInt8.toNat same
  simp only [UInt8.toNat_ofNat'] at values
  omega

theorem Length.unique {n n' : Nat} {octets octets' rest rest' : List UInt8} (h : Length n octets)
    (h' : Length n' octets') (same : octets ++ rest = octets' ++ rest') : n = n' ∧ rest = rest' := by
  cases h with
  | short small =>
      cases h' with
      | short small' =>
          simp only [List.cons_append, List.nil_append, List.cons.injEq] at same
          exact ⟨ofNat_inj (by omega) (by omega) same.1, same.2⟩
      | long count' _ _ =>
          simp only [List.cons_append, List.nil_append, List.cons.injEq] at same
          have value := ofNat_inj (by omega) (by omega) same.1
          omega
  | long count _ _ =>
      cases h' with
      | short small' =>
          simp only [List.cons_append, List.nil_append, List.cons.injEq] at same
          have value := ofNat_inj (by omega) (by omega) same.1
          omega
      | long count' _ _ =>
          simp only [List.cons_append, List.cons.injEq] at same
          have value := ofNat_inj (by omega) (by omega) same.1
          obtain ⟨rfl, tail⟩ := List.append_inj same.2 (by omega)
          exact ⟨rfl, tail⟩

theorem Element.unique {identifier identifier' : UInt8}
    {content content' encoded encoded' rest rest' : List UInt8}
    (h : Element identifier content encoded) (h' : Element identifier' content' encoded')
    (same : encoded ++ rest = encoded' ++ rest') :
    identifier = identifier' ∧ content = content' ∧ rest = rest' := by
  cases h with
  | mk length =>
      cases h' with
      | mk length' =>
          simp only [List.cons_append, List.append_assoc, List.cons.injEq] at same
          obtain ⟨size, tail⟩ := length.unique length' same.2
          obtain ⟨contents, rests⟩ := List.append_inj tail size
          exact ⟨same.1, contents, rests⟩

/-- An encoding has one content. -/
theorem Element.content_unique {identifier identifier' : UInt8} {content content' encoded : List UInt8}
    (h : Element identifier content encoded) (h' : Element identifier' content' encoded) :
    content = content' := by
  have same : encoded ++ [] = encoded ++ [] := rfl
  exact (h.unique h' same).2.1

/-! ## Short contents -/

theorem Element.short (identifier : UInt8) {content : List UInt8} {n : Nat}
    (size : content.length = n) (small : n < 128) :
    Element identifier content (identifier :: UInt8.ofNat n :: content) := by
  subst size
  exact .mk (.short small)

/-- A content below 128 octets has no other encoding. -/
theorem Element.eq_short {identifier : UInt8} {content encoded : List UInt8} {n : Nat}
    (h : Element identifier content encoded) (size : content.length = n) (small : n < 128) :
    encoded = identifier :: UInt8.ofNat n :: content := by
  cases h with
  | mk length =>
      rw [size] at length
      cases length with
      | short _ => rfl
      | long _ _ large => omega

/-! ## Private keys -/

/-- `PrivateKeyInfo` of PKCS #8: version 0, the identifier of an algorithm
    without parameters, and the key as an octet string within the octet string
    of the private key. -/
inductive PrivateKeyInfo (algorithm key : List UInt8) : List UInt8 → Prop where
  | mk {version name sequence octetString privateKey encoded : List UInt8} :
      Element 0x02 [0] version → Element 0x06 algorithm name → Element 0x30 name sequence →
      Element 0x04 key octetString → Element 0x04 octetString privateKey →
      Element 0x30 (version ++ (sequence ++ privateKey)) encoded →
      PrivateKeyInfo algorithm key encoded

theorem PrivateKeyInfo.unique {algorithm algorithm' key key' encoded : List UInt8}
    (h : PrivateKeyInfo algorithm key encoded) (h' : PrivateKeyInfo algorithm' key' encoded) :
    algorithm = algorithm' ∧ key = key' := by
  cases h with
  | mk version name sequence octets private_ whole =>
      cases h' with
      | mk version' name' sequence' octets' private_' whole' =>
          have contents := whole.content_unique whole'
          obtain ⟨_, _, afterVersion⟩ := version.unique version' contents
          obtain ⟨_, rfl, afterSequence⟩ := sequence.unique sequence' afterVersion
          subst afterSequence
          obtain rfl := private_.content_unique private_'
          exact ⟨name.content_unique name', octets.content_unique octets'⟩

end Der
