import SentinelRounds.Proofs.Wire.Exact
import SentinelRounds.Round.Header
import SentinelRounds.Round.Settings

/-! The binary format of headers, and that nothing but a header's writing is read as that header. -/

namespace SentinelRounds

/-- A text in the binary format: the length of its bytes, and its bytes. -/
def Binary.spell (text : String) : Bytes :=
  Bytes.ofNat 8 (Utf8.encode text).length ++ Utf8.encode text

namespace Schema

/-- Numbers of a type with as many values as some bytes can hold are exact. -/
theorem exact_word {α : Type} {width : Nat} {expected : String} {build : Nat → α} {view : α → Nat}
    (fits : ∀ value, view value < Bytes.bound width) (undone : ∀ value, build (view value) = value)
    (seen : ∀ n < Bytes.bound width, view (build n) = n) :
    ((natural width expected).via build view).binary.Exact fun _ => True :=
  -- Every value of the type fits the width.
  ((Binary.Layout.exact_natural width).via undone seen).congr fun value =>
    iff_true_intro (fits value)

/-- Numbers of four bytes are exact. -/
theorem exact_word32 : word32.binary.Exact fun _ => True :=
  exact_word UInt32.toNat_lt (fun _ => UInt32.ofNat_toNat) fun _ => UInt32.toNat_ofNat_of_lt'

/-- Numbers of eight bytes are exact. -/
theorem exact_word64 : word64.binary.Exact fun _ => True :=
  exact_word UInt64.toNat_lt (fun _ => UInt64.ofNat_toNat) fun _ => UInt64.toNat_ofNat_of_lt'

/-- Records are exact if their fields are. -/
theorem exact_record {α ρ σ : Type} {name : String} {fields : Fields ρ σ} {build : ρ → α}
    {view : α → ρ} {fits : ρ → Prop} {fits' : α → Prop} (exact : fields.binary.Exact fits)
    (undone : ∀ value, build (view value) = value) (seen : ∀ values, view (build values) = values)
    (same : ∀ value, fits (view value) ↔ fits' value) :
    (record name fields build view).binary.Exact fits' :=
  (exact.via undone fun values _ => seen values).congr same

end Schema

/-- A value is decoded exactly from its encoding, with anything behind it. -/
theorem Encoding.decode_eq_ok_iff {α : Type} {schema : Schema α} {fits : α → Prop}
    (exact : schema.binary.Exact fits) {bytes : Bytes} {value : α} :
    Encoding.binary.decode schema bytes = .ok value ↔
      fits value ∧ ∃ rest, bytes = Encoding.binary.encode schema value ++ rest := by
  -- Decoding forgets what is behind the value.
  have forgets : Encoding.binary.decode schema bytes = .ok value ↔
      ∃ rest, schema.binary.get bytes = .ok (value, rest) := by
    rw [Encoding.decode]
    cases schema.binary.get bytes with
    | error fault => simp only [reduceCtorEq, exists_false]
    | ok found => simp only [Except.ok.injEq, Prod.ext_iff, exists_and_left, exists_eq', and_true]
  simp only [forgets, exact.get_eq_ok_iff, exists_and_left, Encoding.encode]

namespace Identity

/-- Whether the texts of an identity can be counted. -/
def Countable (identity : Identity) : Prop :=
  Binary.Countable identity.id ∧ Binary.Countable identity.name

/-- The binary format of an identity. -/
def format (identity : Identity) : Bytes :=
  Binary.spell identity.id ++ Binary.spell identity.name

/-- Identities are exact if their texts can be counted. -/
theorem exact_schema : schema.binary.Exact Countable := by
  -- The fields are exact one by one, in their order.
  have fields := Binary.Layout.exact_text.pair
    (Binary.Layout.exact_text.pair Binary.Layout.exact_empty)
  refine Schema.exact_record fields (fun _ => rfl) (fun _ => rfl) fun identity => ?_
  -- There is nothing to ask of the end of the record.
  exact and_congr_right fun _ => iff_of_eq (and_true _)

/-- Identities are written in their format. -/
theorem put_eq (identity : Identity) : schema.binary.put identity = identity.format := by
  -- The end of the record adds nothing.
  have fields : schema.binary.put identity =
      Binary.spell identity.id ++ (Binary.spell identity.name ++ []) := rfl
  rw [fields, List.append_nil, format]

end Identity

namespace Descriptor

/-- The binary format of a descriptor. -/
def format (descriptor : Descriptor) : Bytes :=
  Binary.spell descriptor.key ++ Bytes.ofNat 8 descriptor.size.toNat ++
    Bytes.ofNat 4 descriptor.chunks.toNat

/-- Descriptors are exact if their keys can be counted. -/
theorem exact_schema : schema.binary.Exact fun descriptor => Binary.Countable descriptor.key := by
  -- The fields are exact one by one, in their order.
  have fields := Binary.Layout.exact_text.pair (Schema.exact_word64.pair
    (Schema.exact_word32.pair Binary.Layout.exact_empty))
  refine Schema.exact_record fields (fun _ => rfl) (fun _ => rfl) fun descriptor => ?_
  -- Numbers ask for nothing.
  simp only [and_true]

/-- Descriptors are written in their format. -/
theorem put_eq (descriptor : Descriptor) : schema.binary.put descriptor = descriptor.format := by
  -- The end of the record adds nothing.
  have fields : schema.binary.put descriptor =
      Binary.spell descriptor.key ++ (Bytes.ofNat 8 descriptor.size.toNat ++
        (Bytes.ofNat 4 descriptor.chunks.toNat ++ [])) := rfl
  rw [fields, List.append_nil, format, List.append_assoc]

end Descriptor

namespace Header

/-- Whether the texts and the items of a header can be counted, as those in memory always can. -/
structure Countable (header : Header) : Prop where
  identity : header.identity.Countable
  items : header.items.length < UInt64.size
  keys : ∀ item ∈ header.items, Binary.Countable item.key
  notice : ∀ notice ∈ header.notice, Binary.Countable notice

/-- The binary format of a notice that may be missing. -/
def formatNotice : Option String → Bytes
  | none => [0]
  | some notice => 1 :: Binary.spell notice

/-- The binary format of a truth value. -/
def formatFlag (value : Bool) : Bytes := [if value then 1 else 0]

/-- The binary format of a header. -/
def format (header : Header) : Bytes :=
  Bytes.ofNat 4 header.version.toNat ++ header.identity.format ++
    Bytes.ofNat 8 header.items.length ++ header.items.flatMap Descriptor.format ++
    Bytes.ofNat 4 header.itemsCount.toNat ++ Bytes.ofNat 8 header.chunksCount.toNat ++
    formatFlag header.synchronic ++ formatFlag header.denied ++ formatFlag header.close ++
    Bytes.ofNat 4 header.errors.toNat ++ formatNotice header.notice

/-- Headers are exact if their texts and their items can be counted. -/
theorem exact_schema : schema.binary.Exact Countable := by
  -- The fields are exact one by one, in their order.
  have flag := Binary.Layout.exact_flag
  have fields := Schema.exact_word32.pair (Identity.exact_schema.pair
    (Descriptor.exact_schema.list.pair (Schema.exact_word32.pair (Schema.exact_word64.pair
      (flag.pair (flag.pair (flag.pair (Schema.exact_word32.pair
        (Binary.Layout.exact_text.optional.pair Binary.Layout.exact_empty)))))))))
  refine Schema.exact_record fields (fun _ => rfl) (fun _ => rfl) fun header => ?_
  -- Numbers and truth values ask for nothing.
  simp only [and_true, true_and]
  constructor
  · rintro ⟨identity, ⟨items, keys⟩, notice⟩
    exact ⟨identity, items, keys, notice⟩
  · rintro ⟨identity, items, keys, notice⟩
    exact ⟨identity, ⟨items, keys⟩, notice⟩

/-- Headers are written in their format. -/
theorem put_eq (header : Header) : schema.binary.put header = header.format := by
  -- Each field is written in its own format.
  have items : Descriptor.schema.binary.put = Descriptor.format := funext Descriptor.put_eq
  have notice : Binary.Layout.text.optional.put header.notice = formatNotice header.notice := by
    cases header.notice <;> rfl
  have fields : schema.binary.put header =
      Bytes.ofNat 4 header.version.toNat ++ (Identity.schema.binary.put header.identity ++
        ((Bytes.ofNat 8 header.items.length ++
            header.items.flatMap Descriptor.schema.binary.put) ++
          (Bytes.ofNat 4 header.itemsCount.toNat ++ (Bytes.ofNat 8 header.chunksCount.toNat ++
            (formatFlag header.synchronic ++ (formatFlag header.denied ++
              (formatFlag header.close ++ (Bytes.ofNat 4 header.errors.toNat ++
                (Binary.Layout.text.optional.put header.notice ++ []))))))))) := rfl
  -- The fields follow each other, however they are bracketed.
  rw [fields, items, notice, Identity.put_eq]
  simp only [format, List.append_assoc, List.append_nil]

/--
The binary format is accepted exactly: a header is written in its format, and what is read as that
header is that writing, with anything behind it, as long as its texts and items can be counted.
-/
theorem decode_binary_iff (header : Header) :
    Encoding.binary.encode schema header = header.format ∧
      ∀ bytes, Encoding.binary.decode schema bytes = .ok header ↔
        header.Countable ∧ ∃ rest, bytes = Encoding.binary.encode schema header ++ rest :=
  ⟨header.put_eq, fun _ => Encoding.decode_eq_ok_iff exact_schema⟩

end Header

end SentinelRounds
