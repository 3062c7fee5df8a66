import SqlGateway.Json.Codec
import SqlGateway.Proofs.Json.Numerals

/-!
# What a document gives back

A value is kept by its document if the document is legible and gives the value back. Then the value
is read from its text, since a legible document is read back from what is written of it. What is
shown here is how a value is kept if its parts are: lists, optional values and variants.

An optional value needs a reason of its own. It is absent if its document is `null`, so what is
present must be written in another way.
-/

namespace SqlGateway

/-- A value is kept by its document. -/
structure Kept {α : Type} [JsonCodec α] (a : α) : Prop where
  legible : (encode a).Legible
  decoded : decode? (encode a) = some a

variable {α : Type} [JsonCodec α]

namespace Kept

/-- **What is kept is read back from its text.** -/
theorem ofJsonText? {a : α} (h : Kept a) : ofJsonText? α (toJsonText a) = some a := by
  rw [SqlGateway.ofJsonText?, toJsonText, Json.read?_render h.legible]
  exact h.decoded

theorem required {a : α} (h : Kept a) : Json.required (some (encode a)) = some a := h.decoded

end Kept

/-! ## Simple types -/

theorem kept_string (s : String) : Kept s := ⟨.string s, rfl⟩

theorem kept_bool (b : Bool) : Kept b := ⟨.bool b, rfl⟩

/-- A member of an enumeration is kept if no other has its name. -/
theorem kept_tag {β : Type} [Enumeration β] {b : β}
    (h : Enumeration.ofTag? (Enumeration.tag b) = some b) : Kept b :=
  ⟨.string _, h⟩

theorem legible_ofInt (i : Int) : (Json.ofInt i).Legible := .number (Json.numeral_toString i)

/-- A place for whole numbers of a range reads those of the range, if all of it is of 64 bits. -/
theorem wholeIn?_ofInt {low high i : Int} (hrange : low ≤ i ∧ i ≤ high)
    (hlow : -Text.signedBound ≤ low) (hhigh : high < UInt64.size) :
    Json.wholeIn? low high (.ofInt i) = some i := by
  have hread : Json.integerOfText? (toString i).toList = some i :=
    Json.integerOfText?_toString (Int.le_trans hlow hrange.1) (Int.lt_of_le_of_lt hrange.2 hhigh)
  simp only [Json.wholeIn?, Json.ofInt, hread]
  exact if_pos hrange

theorem kept_int64 (i : Int64) : Kept i where
  legible := legible_ofInt _
  decoded := by
    have hrange : -(Text.signedBound : Int) ≤ i.toInt ∧ i.toInt ≤ Text.signedBound - 1 :=
      ⟨i.le_toInt, Int.le_sub_one_of_lt i.toInt_lt⟩
    have hread := wholeIn?_ofInt hrange (Int.le_refl _) (by decide)
    show (Json.wholeIn? _ _ (.ofInt i.toInt)).map Int64.ofInt = some i
    rw [hread, Option.map_some, Int64.ofInt_toInt]

theorem wholeIn?_ofNat {n size : Nat} (h : n < size) (hsize : size ≤ UInt64.size) :
    Json.wholeIn? 0 (size - 1) (.ofInt n) = some (n : Int) :=
  wholeIn?_ofInt ⟨Int.natCast_nonneg n, by omega⟩ (by decide) (by omega)

theorem kept_uint64 (n : UInt64) : Kept n where
  legible := legible_ofInt _
  decoded := by
    show (Json.wholeIn? _ _ (.ofInt n.toNat)).map (fun i ↦ UInt64.ofNat i.toNat) = some n
    rw [wholeIn?_ofNat n.toNat_lt_size (Nat.le_refl _), Option.map_some, Int.toNat_natCast,
      UInt64.ofNat_toNat]

theorem kept_uint32 (n : UInt32) : Kept n where
  legible := legible_ofInt _
  decoded := by
    show (Json.wholeIn? _ _ (.ofInt n.toNat)).map (fun i ↦ UInt32.ofNat i.toNat) = some n
    rw [wholeIn?_ofNat n.toNat_lt_size (by decide), Option.map_some, Int.toNat_natCast,
      UInt32.ofNat_toNat]

theorem kept_uint8 (n : UInt8) : Kept n where
  legible := legible_ofInt _
  decoded := by
    show (Json.wholeIn? _ _ (.ofInt n.toNat)).map (fun i ↦ UInt8.ofNat i.toNat) = some n
    rw [wholeIn?_ofNat n.toNat_lt_size (by decide), Option.map_some, Int.toNat_natCast,
      UInt8.ofNat_toNat]

/-! ## Lists and optional values -/

theorem mapM_decode?_encode {items : List α} (h : ∀ item ∈ items, Kept item) :
    (items.map encode).mapM decode? = some items := by
  induction items with
  | nil => rfl
  | cons item items ih =>
    rw [List.map_cons, List.mapM_cons, (h item List.mem_cons_self).decoded,
      ih fun other hother ↦ h other (List.mem_cons_of_mem _ hother)]
    rfl

theorem Kept.list {items : List α} (h : ∀ item ∈ items, Kept item) : Kept items where
  legible := by
    refine .array fun document hdocument ↦ ?_
    obtain ⟨item, hitem, rfl⟩ := List.mem_map.mp hdocument
    exact (h item hitem).legible
  decoded := mapM_decode?_encode h

theorem kept_none : Kept (none : Option α) := ⟨.null, rfl⟩

theorem Kept.some {a : α} (h : Kept a) (hnull : encode a ≠ .null) : Kept (some a) where
  legible := h.legible
  decoded := by
    show Json.optional (Option.some (encode a)) = _
    rw [Json.optional]
    · rw [h.decoded]
      rfl
    · exact hnull

/-! ## Variants -/

theorem legible_variant {name : String} {contents : Json} (h : contents.Legible) :
    (Json.variant name contents).Legible := h.field .empty

/-- A variant is kept if its contents are. -/
theorem Kept.variant {β : Type} [JsonCodec β] {build : α → β} {name : String} {a : α} (h : Kept a)
    (hencode : encode (build a) = .variant name (encode a))
    (hdecode : decode? (encode (build a)) = (decode? (encode a)).map build) : Kept (build a) where
  legible := hencode ▸ legible_variant h.legible
  decoded := by rw [hdecode, h.decoded, Option.map_some]

end SqlGateway
