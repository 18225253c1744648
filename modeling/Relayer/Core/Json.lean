import Mathlib

/-!
# Documents, merge patches and typed records

A document is a tree of values whose objects are finite maps.  A merge patch
replaces, removes or descends, key by key (RFC 7396).

Records are read from documents and written to them field by field.  A field
knows how it is written and read, which of its values survive being written and
read back, and what a patch means for it.  From the fields of a record follow
the meaning of a patch for the whole record, when it agrees with patching the
written document and reading the result, and that a patch applied twice is
applied once.
-/

namespace Relayer.Json

/-- A document over the given numbers.  An object has a value for each of its keys. -/
inductive Document (Number : Type) where
  | null
  | bool (value : Bool)
  | num (value : Number)
  | str (value : String)
  | arr (items : List (Document Number))
  | obj (keys : List String) (value : String → Document Number)

variable {Number A B S : Type}

namespace Document

/-- What an object has under a key. -/
def lookup : Document Number → String → Option (Document Number)
  | .obj keys value, key => if key ∈ keys then some (value key) else none
  | _, _ => none

def isNull : Document Number → Bool
  | .null => true
  | _ => false

def isObject : Document Number → Bool
  | .obj .. => true
  | _ => false

def isEmptyObject : Document Number → Bool
  | .obj keys _ => keys.isEmpty
  | _ => false

def keys : Document Number → List String
  | .obj keys _ => keys
  | _ => []

/-- The object with the given entries. -/
def object (entries : List (String × Document Number)) : Document Number :=
  .obj (entries.map Prod.fst) fun key => (entries.lookup key).getD .null

/-- The object that answers like `look` on the given keys. -/
def ofLookup (keys : List String) (look : String → Option (Document Number)) :
    Document Number :=
  .obj (keys.filter fun key => (look key).isSome) fun key => (look key).getD .null

/-- RFC 7396: a patch that is no object replaces the target; an object removes the
keys it has as null and descends into the others. -/
def mergePatch (target : Document Number) : Document Number → Document Number
  | .obj keys value =>
      .obj ((target.keys ++ keys).filter fun key => !(keys.contains key && (value key).isNull))
        fun key =>
          if key ∈ keys then mergePatch ((target.lookup key).getD .null) (value key)
          else (target.lookup key).getD .null
  | patch => patch

/-- What a patch leaves under one key. -/
def patchedAt (target patch : Option (Document Number)) : Option (Document Number) :=
  match patch with
  | none => target
  | some value =>
      if value.isNull then none else some (mergePatch (target.getD .null) value)

theorem lookup_obj (keys : List String) (value : String → Document Number) (key : String) :
    (Document.obj keys value).lookup key = if key ∈ keys then some (value key) else none := rfl

theorem lookup_ofLookup {keys : List String} {look : String → Option (Document Number)}
    (hkeys : ∀ key, (look key).isSome → key ∈ keys) (key : String) :
    (ofLookup keys look).lookup key = look key := by
  simp only [ofLookup, lookup, List.mem_filter]
  cases hlook : look key with
  | none => simp
  | some value =>
      have hmem : key ∈ keys := hkeys key (by rw [hlook]; rfl)
      simp [hmem]

theorem mem_keys_iff {document : Document Number} {key : String} :
    key ∈ document.keys ↔ (document.lookup key).isSome := by
  cases document with
  | obj keys value => by_cases hmem : key ∈ keys <;> simp [Document.keys, lookup, hmem]
  | _ => simp [Document.keys, lookup]

theorem lookup_mergePatch (target : Document Number) (keys : List String)
    (value : String → Document Number) (key : String) :
    (mergePatch target (.obj keys value)).lookup key =
      patchedAt (target.lookup key) ((Document.obj keys value).lookup key) := by
  rw [mergePatch, lookup_obj, lookup_obj]
  simp only [List.mem_filter, List.mem_append]
  by_cases hmem : key ∈ keys
  · cases hvalue : value key <;> simp [patchedAt, hmem, isNull]
  · have htarget : key ∈ target.keys ↔ (target.lookup key).isSome := mem_keys_iff
    cases hlook : target.lookup key with
    | none => simp [patchedAt, hmem, htarget, hlook]
    | some old => simp [patchedAt, hmem, htarget, hlook]

/-- Only objects are descended into. -/
theorem mergePatch_of_not_isObject {target : Document Number}
    (htarget : target.isObject = false) (patch : Document Number) :
    mergePatch target patch = mergePatch .null patch := by
  cases target with
  | obj keys value => cases htarget
  | _ => cases patch <;> rfl

/-- What is no object replaces. -/
theorem mergePatch_eq_of_not_isObject {patch : Document Number}
    (hpatch : patch.isObject = false) (target : Document Number) :
    mergePatch target patch = patch := by
  cases patch with
  | obj keys value => cases hpatch
  | _ => rfl

end Document

open Document

/-! ## Values -/

/-- How values are written and read.  A value is faithful when it survives that, and
what has been read back is faithful. -/
structure Codec (Number A : Type) where
  encode : A → Document Number
  decode : Document Number → Option A
  faithful : A → Prop
  decode_null : decode .null = none
  roundtrip : ∀ value, decode (encode value) = some value ↔ faithful value
  settles : ∀ value result, decode (encode value) = some result → faithful result

namespace Codec

/-- A codec under which every value survives. -/
def lossless (encode : A → Document Number) (decode : Document Number → Option A)
    (hnull : decode .null = none) (hroundtrip : ∀ value, decode (encode value) = some value) :
    Codec Number A where
  encode := encode
  decode := decode
  faithful _ := True
  decode_null := hnull
  roundtrip value := iff_of_true (hroundtrip value) trivial
  settles _ _ _ := trivial

def bool : Codec Number Bool :=
  lossless .bool (fun
    | .bool value => some value
    | _ => none) rfl fun _ => rfl

theorem isObject_bool (value : Bool) :
    ((bool : Codec Number Bool).encode value).isObject = false := rfl

def string : Codec Number String :=
  lossless .str (fun
    | .str value => some value
    | _ => none) rfl fun _ => rfl

theorem isObject_string (text : String) :
    ((string : Codec Number String).encode text).isObject = false := rfl

/-- Variants without data are written as their names, and read from a name or from an
object with the name as its only key and nothing under it.  Where documents are buffered
before they are read, an empty object is nothing as well. -/
def variants (buffered : Bool) (name : A → String) (parse : String → Option A)
    (hparse : ∀ value, parse (name value) = some value) : Codec Number A :=
  lossless (fun value => .str (name value)) (fun
    | .str text => parse text
    | .obj keys value =>
        match keys.dedup with
        | [text] =>
            if (value text).isNull || (buffered && (value text).isEmptyObject) then parse text
            else none
        | _ => none
    | _ => none) rfl hparse

/-- Every element is read. -/
def decodeAll (codec : Codec Number A) : List (Document Number) → Option (List A)
  | [] => some []
  | item :: rest => do
      let value ← codec.decode item
      let values ← codec.decodeAll rest
      return value :: values

theorem decodeAll_cons_eq_some {codec : Codec Number A} {item : Document Number}
    {rest : List (Document Number)} {result : List A} :
    codec.decodeAll (item :: rest) = some result ↔
      ∃ value values, codec.decode item = some value ∧ codec.decodeAll rest = some values ∧
        value :: values = result := by
  simp only [decodeAll, Option.bind_eq_bind, Option.pure_def, Option.bind_eq_some_iff,
    Option.some.injEq]
  constructor
  · rintro ⟨value, hvalue, values, hvalues, hresult⟩
    exact ⟨value, values, hvalue, hvalues, hresult⟩
  · rintro ⟨value, values, hvalue, hvalues, hresult⟩
    exact ⟨value, hvalue, values, hvalues, hresult⟩

theorem decodeAll_encode_iff {codec : Codec Number A} {values : List A} :
    codec.decodeAll (values.map codec.encode) = some values ↔
      ∀ value ∈ values, codec.faithful value := by
  induction values with
  | nil => simp [decodeAll]
  | cons head tail ih =>
      rw [List.map_cons, decodeAll_cons_eq_some, List.forall_mem_cons, ← ih,
        ← codec.roundtrip head]
      simp

theorem faithful_of_decodeAll {codec : Codec Number A} {values result : List A}
    (hread : codec.decodeAll (values.map codec.encode) = some result) :
    ∀ value ∈ result, codec.faithful value := by
  induction values generalizing result with
  | nil =>
      cases hread
      exact nofun
  | cons head tail ih =>
      rw [List.map_cons, decodeAll_cons_eq_some] at hread
      obtain ⟨value, rest, hvalue, hrest, rfl⟩ := hread
      rw [List.forall_mem_cons]
      exact ⟨codec.settles head value hvalue, ih hrest⟩

def list (codec : Codec Number A) : Codec Number (List A) where
  encode values := .arr (values.map codec.encode)
  decode
    | .arr items => codec.decodeAll items
    | _ => none
  faithful values := ∀ value ∈ values, codec.faithful value
  decode_null := rfl
  roundtrip _ := decodeAll_encode_iff
  settles _ _ := faithful_of_decodeAll

end Codec

/-! ## Fields -/

/-- A field of a record.  `encode` is empty when the field is left out, `decode` gets
nothing when it is missing.  `patched` is what a patch of the field means, and `keeps`
says when that agrees with patching what was written, for the patches it admits. -/
structure Field (Number A : Type) where
  key : String
  encode : A → Option (Document Number)
  decode : Option (Document Number) → Option A
  patched : Document Number → A → Option A
  faithful : A → Prop
  admits : Document Number → Prop
  keeps : Document Number → A → Prop
  roundtrip : ∀ value, decode (encode value) = some value ↔ faithful value
  settles : ∀ value result, decode (encode value) = some result → faithful result
  settles_missing : ∀ result, decode none = some result → faithful result
  patched_iff : ∀ patch old new, admits patch →
    decode (some (mergePatch ((encode old).getD .null) patch)) = some new →
      (patched patch old = some new ↔ keeps patch old)
  patched_again : ∀ patch target new, admits patch →
    (target = none ∨ ∃ old, target = encode old) →
    decode (some (mergePatch (target.getD .null) patch)) = some new →
      decode (some (mergePatch ((encode new).getD .null) patch)) = some new

namespace Field

/-- What a patch of the record means for the field: without the key it stays, and null
removes it. -/
def update (field : Field Number A) (patch : Option (Document Number)) (old : A) :
    Option A :=
  match patch with
  | none => some old
  | some value => if value.isNull then field.decode none else field.patched value old

/-- The field comes through the patch as it is meant to. -/
def Kept (field : Field Number A) (patch : Option (Document Number)) (old : A) : Prop :=
  match patch with
  | none => field.faithful old
  | some value => value.isNull = false → field.keeps value old

/-- The field admits what the patch of the record has for it. -/
def Admits (field : Field Number A) (patch : Option (Document Number)) : Prop :=
  ∀ value, patch = some value → field.admits value

theorem update_iff {field : Field Number A} {patch : Option (Document Number)} {old new : A}
    (hadmits : field.Admits patch)
    (hread : field.decode (patchedAt (field.encode old) patch) = some new) :
    field.update patch old = some new ↔ field.Kept patch old := by
  cases patch with
  | none =>
      rw [patchedAt] at hread
      rw [update, Kept, ← field.roundtrip old, hread, Option.some.injEq, Option.some.injEq,
        eq_comm]
  | some value =>
      cases hnull : value.isNull with
      | true => simpa [update, Kept, patchedAt, hnull] using hread
      | false =>
          simp only [patchedAt, hnull, Bool.false_eq_true, if_false] at hread
          have hiff := field.patched_iff value old new (hadmits value rfl) hread
          simp only [update, Kept, hnull, Bool.false_eq_true, if_false, hiff, forall_const]

theorem decode_again {field : Field Number A} {target patch : Option (Document Number)}
    {new : A} (hadmits : field.Admits patch)
    (htarget : target = none ∨ ∃ old, target = field.encode old)
    (hread : field.decode (patchedAt target patch) = some new) :
    field.decode (patchedAt (field.encode new) patch) = some new := by
  cases patch with
  | none =>
      rw [patchedAt] at hread ⊢
      rw [field.roundtrip]
      rcases htarget with rfl | ⟨old, rfl⟩
      · exact field.settles_missing new hread
      · exact field.settles old new hread
  | some value =>
      cases hnull : value.isNull with
      | true =>
          simp only [patchedAt, hnull, if_true] at hread ⊢
          exact hread
      | false =>
          simp only [patchedAt, hnull, Bool.false_eq_true, if_false] at hread ⊢
          exact field.patched_again value target new (hadmits value rfl) htarget hread

/-- A field that the admitted patches replace. -/
def leaf (key : String) (encode : A → Option (Document Number))
    (decode : Option (Document Number) → Option A) (faithful : A → Prop)
    (admits : Document Number → Prop)
    (roundtrip : ∀ value, decode (encode value) = some value ↔ faithful value)
    (settles : ∀ value result, decode (encode value) = some result → faithful result)
    (settles_missing : ∀ result, decode none = some result → faithful result)
    (replaces : ∀ patch value, admits patch →
      mergePatch ((encode value).getD .null) patch = mergePatch .null patch) :
    Field Number A where
  key := key
  encode := encode
  decode := decode
  patched patch _ := decode (some (mergePatch .null patch))
  faithful := faithful
  admits := admits
  keeps _ _ := True
  roundtrip := roundtrip
  settles := settles
  settles_missing := settles_missing
  patched_iff patch old new hadmits hread := by
    rw [replaces patch old hadmits] at hread
    exact iff_of_true hread trivial
  patched_again patch target new hadmits htarget hread := by
    have hreplaced : mergePatch (target.getD .null) patch = mergePatch .null patch := by
      rcases htarget with rfl | ⟨old, rfl⟩
      · rfl
      · exact replaces patch old hadmits
    rw [hreplaced] at hread
    rw [replaces patch new hadmits]
    exact hread

/-- A field that has to be there. -/
def required (key : String) (codec : Codec Number A)
    (hplain : ∀ value, (codec.encode value).isObject = false) : Field Number A :=
  leaf key (fun value => some (codec.encode value)) (fun entry => entry.bind codec.decode)
    codec.faithful (fun _ => True) codec.roundtrip codec.settles
    (fun _ hread => nomatch hread)
    fun patch value _ => mergePatch_of_not_isObject (hplain value) patch

/-- A field that has to be there and may be written as an object, which only what is no
object can replace. -/
def requiredWhole (key : String) (codec : Codec Number A) : Field Number A :=
  leaf key (fun value => some (codec.encode value)) (fun entry => entry.bind codec.decode)
    codec.faithful (fun patch => patch.isObject = false) codec.roundtrip codec.settles
    (fun _ hread => nomatch hread) fun _ _ hpatch => by
      rw [mergePatch_eq_of_not_isObject hpatch, mergePatch_eq_of_not_isObject hpatch]

/-- A field with a default. -/
def defaulted (key : String) (codec : Codec Number A) (missing : A)
    (hmissing : codec.faithful missing)
    (hplain : ∀ value, (codec.encode value).isObject = false) : Field Number A :=
  leaf key (fun value => some (codec.encode value))
    (fun entry => entry.elim (some missing) codec.decode) codec.faithful (fun _ => True)
    codec.roundtrip codec.settles (fun _ hread => Option.some.inj hread ▸ hmissing)
    fun patch value _ => mergePatch_of_not_isObject (hplain value) patch

/-- How optional values are read: missing and null are nothing. -/
def decodeOptional (codec : Codec Number A) :
    Option (Document Number) → Option (Option A)
  | none => some none
  | some .null => some none
  | some entry => (codec.decode entry).map some

/-- How optional values are written: left out, or as null. -/
def encodeOptional (codec : Codec Number A) (leaveOut : Bool) :
    Option A → Option (Document Number)
  | none => if leaveOut then none else some .null
  | some value => some (codec.encode value)

def OptionalFaithful (codec : Codec Number A) (value : Option A) : Prop :=
  ∀ inner, value = some inner → codec.faithful inner

theorem decodeOptional_some (codec : Codec Number A) (entry : Document Number) :
    decodeOptional codec (some entry) =
      if entry.isNull then some none else (codec.decode entry).map some := by
  cases entry <;> rfl

theorem decodeOptional_encode_none (codec : Codec Number A) (leaveOut : Bool) :
    decodeOptional codec (encodeOptional codec leaveOut none) = some none := by
  cases leaveOut <;> rfl

theorem decodeOptional_roundtrip (codec : Codec Number A) (leaveOut : Bool)
    (value : Option A) :
    decodeOptional codec (encodeOptional codec leaveOut value) = some value ↔
      OptionalFaithful codec value := by
  cases value with
  | none =>
      exact iff_of_true (decodeOptional_encode_none codec leaveOut) fun _ hinner =>
        nomatch hinner
  | some inner =>
      have hfaithful : OptionalFaithful codec (some inner) ↔ codec.faithful inner := by
        simp [OptionalFaithful]
      rw [encodeOptional, decodeOptional_some, hfaithful, ← codec.roundtrip]
      cases hentry : codec.encode inner with
      | null => simp [isNull, codec.decode_null]
      | _ => simp [isNull]

theorem decodeOptional_settles (codec : Codec Number A) (leaveOut : Bool)
    (value result : Option A)
    (hread : decodeOptional codec (encodeOptional codec leaveOut value) = some result) :
    OptionalFaithful codec result := by
  intro inner hinner
  subst hinner
  cases value with
  | none =>
      rw [decodeOptional_encode_none] at hread
      cases hread
  | some old =>
      rw [encodeOptional, decodeOptional_some] at hread
      split_ifs at hread
      · cases hread
      · obtain ⟨read, hdecode, hsame⟩ := Option.map_eq_some_iff.mp hread
        cases hsame
        exact codec.settles old inner hdecode

theorem decodeOptional_settles_missing (codec : Codec Number A) (result : Option A)
    (hread : decodeOptional codec none = some result) : OptionalFaithful codec result := by
  cases hread
  exact fun _ hinner => nomatch hinner

theorem getD_encodeOptional (codec : Codec Number A) (leaveOut : Bool) (value : Option A) :
    (encodeOptional codec leaveOut value).getD .null = value.elim .null codec.encode := by
  cases value with
  | none => cases leaveOut <;> rfl
  | some inner => rfl

/-- An optional field. -/
def optional (key : String) (codec : Codec Number A) (leaveOut : Bool)
    (hplain : ∀ value, (codec.encode value).isObject = false) : Field Number (Option A) :=
  leaf key (encodeOptional codec leaveOut) (decodeOptional codec) (OptionalFaithful codec)
    (fun _ => True) (decodeOptional_roundtrip codec leaveOut)
    (decodeOptional_settles codec leaveOut) (decodeOptional_settles_missing codec)
    fun patch value _ => by
      rw [getD_encodeOptional]
      cases value with
      | none => rfl
      | some inner => exact mergePatch_of_not_isObject (hplain inner) patch

/-- An optional field that may hold an object, which only what is no object can replace. -/
def optionalWhole (key : String) (codec : Codec Number A) (leaveOut : Bool) :
    Field Number (Option A) :=
  leaf key (encodeOptional codec leaveOut) (decodeOptional codec) (OptionalFaithful codec)
    (fun patch => patch.isObject = false) (decodeOptional_roundtrip codec leaveOut)
    (decodeOptional_settles codec leaveOut) (decodeOptional_settles_missing codec)
    fun _ _ hpatch => by
      rw [mergePatch_eq_of_not_isObject hpatch, mergePatch_eq_of_not_isObject hpatch]

/-- A field that is always written and takes its default when it is missing or null. -/
def fallingBack (key : String) (codec : Codec Number A) (missing : A)
    (hlossless : ∀ value, codec.faithful value)
    (hplain : ∀ value, (codec.encode value).isObject = false) : Field Number A :=
  leaf key (fun value => some (codec.encode value))
    (fun entry => (decodeOptional codec entry).map fun value => value.getD missing)
    codec.faithful (fun _ => True)
    (fun value => by
      have hread := (decodeOptional_roundtrip codec true (some value)).mpr
        fun inner _ => hlossless inner
      rw [encodeOptional] at hread
      rw [hread]
      exact iff_of_true rfl (hlossless value))
    (fun _ result _ => hlossless result) (fun result _ => hlossless result)
    fun patch value _ => mergePatch_of_not_isObject (hplain value) patch

end Field

/-! ## Records -/

/-- The fields of a record, in the order in which they are declared. -/
inductive Fields (Number : Type) : Type → Type 1 where
  | nil : Fields Number Unit
  | cons {A Row : Type} (field : Field Number A) (rest : Fields Number Row) :
      Fields Number (A × Row)

namespace Fields

def keys : {Row : Type} → Fields Number Row → List String
  | _, .nil => []
  | _, .cons field rest => field.key :: rest.keys

/-- What is written under a key. -/
def entry : {Row : Type} → Fields Number Row → Row → String → Option (Document Number)
  | _, .nil, _, _ => none
  | _, .cons field rest, row, key =>
      if key = field.key then field.encode row.1 else rest.entry row.2 key

/-- Reads a row from its entries. -/
def decode : {Row : Type} → Fields Number Row → (String → Option (Document Number)) → Option Row
  | _, .nil, _ => some ()
  | _, .cons field rest, look => do
      let value ← field.decode (look field.key)
      let row ← rest.decode look
      return (value, row)

/-- Reads a row from as many items as it has fields. -/
def decodeItems : {Row : Type} → Fields Number Row → List (Document Number) → Option Row
  | _, .nil, items => if items.isEmpty then some () else none
  | _, .cons field rest, items => do
      let value ← items.head?.bind fun item => field.decode (some item)
      let row ← rest.decodeItems items.tail
      return (value, row)

def update : {Row : Type} → Fields Number Row → (String → Option (Document Number)) →
    Row → Option Row
  | _, .nil, _, _ => some ()
  | _, .cons field rest, patch, row => do
      let value ← field.update (patch field.key) row.1
      let more ← rest.update patch row.2
      return (value, more)

def Faithful : {Row : Type} → Fields Number Row → Row → Prop
  | _, .nil, _ => True
  | _, .cons field rest, row => field.faithful row.1 ∧ rest.Faithful row.2

def Kept : {Row : Type} → Fields Number Row → (String → Option (Document Number)) → Row → Prop
  | _, .nil, _, _ => True
  | _, .cons field rest, patch, row => field.Kept (patch field.key) row.1 ∧ rest.Kept patch row.2

def Admits : {Row : Type} → Fields Number Row → (String → Option (Document Number)) → Prop
  | _, .nil, _ => True
  | _, .cons field rest, patch => field.Admits (patch field.key) ∧ rest.Admits patch

/-- The entries are those the row is written to. -/
def Writes : {Row : Type} → Fields Number Row → (String → Option (Document Number)) → Row → Prop
  | _, .nil, _, _ => True
  | _, .cons field rest, look, row =>
      look field.key = field.encode row.1 ∧ rest.Writes look row.2

/-- Each field of the new row is read from the patched entry of the old one. -/
def Patched : {Row : Type} → Fields Number Row → (String → Option (Document Number)) →
    Row → Row → Prop
  | _, .nil, _, _, _ => True
  | _, .cons field rest, patch, old, new =>
      field.decode (patchedAt (field.encode old.1) (patch field.key)) = some new.1 ∧
        rest.Patched patch old.2 new.2

/-- Each entry is missing or has been written for some value. -/
def Written : {Row : Type} → Fields Number Row → (String → Option (Document Number)) → Prop
  | _, .nil, _ => True
  | _, .cons field rest, look =>
      (look field.key = none ∨ ∃ value, look field.key = field.encode value) ∧
        rest.Written look

variable {Row : Type} {fields : Fields Number Row}
  {look patch : String → Option (Document Number)}

theorem decode_cons_eq_some {field : Field Number A} {rest : Fields Number Row} {row : A × Row} :
    (cons field rest).decode look = some row ↔
      field.decode (look field.key) = some row.1 ∧ rest.decode look = some row.2 := by
  simp only [decode, Option.bind_eq_bind, Option.pure_def, Option.bind_eq_some_iff,
    Option.some.injEq, Prod.ext_iff]
  constructor
  · rintro ⟨value, hvalue, more, hmore, rfl, rfl⟩
    exact ⟨hvalue, hmore⟩
  · rintro ⟨hvalue, hmore⟩
    exact ⟨row.1, hvalue, row.2, hmore, rfl, rfl⟩

/-- Arrays have as many items as there are fields. -/
theorem length_of_decodeItems {items : List (Document Number)} {row : Row}
    (hread : fields.decodeItems items = some row) :
    items.length = fields.keys.length := by
  induction fields generalizing items with
  | nil =>
      cases items with
      | nil => rfl
      | cons item items => cases hread
  | cons field rest ih =>
      simp only [decodeItems, Option.bind_eq_bind, Option.bind_eq_some_iff] at hread
      obtain ⟨_, ⟨item, hitem, _⟩, more, hmore, _⟩ := hread
      cases items with
      | nil => cases hitem
      | cons first items => rw [List.length_cons, keys, List.length_cons, ← ih hmore, List.tail]

theorem update_cons_eq_some {field : Field Number A} {rest : Fields Number Row}
    {old new : A × Row} :
    (cons field rest).update patch old = some new ↔
      field.update (patch field.key) old.1 = some new.1 ∧
        rest.update patch old.2 = some new.2 := by
  simp only [update, Option.bind_eq_bind, Option.pure_def, Option.bind_eq_some_iff,
    Option.some.injEq, Prod.ext_iff]
  constructor
  · rintro ⟨value, hvalue, more, hmore, rfl, rfl⟩
    exact ⟨hvalue, hmore⟩
  · rintro ⟨hvalue, hmore⟩
    exact ⟨new.1, hvalue, new.2, hmore, rfl, rfl⟩

theorem mem_keys_of_isSome_entry {row : Row} {key : String}
    (hsome : (fields.entry row key).isSome) : key ∈ fields.keys := by
  induction fields with
  | nil => cases hsome
  | cons field rest ih =>
      rw [entry] at hsome
      by_cases hkey : key = field.key
      · exact hkey ▸ List.mem_cons_self
      · rw [if_neg hkey] at hsome
        exact List.mem_cons_of_mem _ (ih hsome)

theorem Writes.congr {other : String → Option (Document Number)} {row : Row}
    (hsame : ∀ key ∈ fields.keys, other key = look key) (hwrites : fields.Writes look row) :
    fields.Writes other row := by
  induction fields with
  | nil => trivial
  | cons field rest ih =>
      refine ⟨?_, ih (fun key hkey => hsame key (List.mem_cons_of_mem _ hkey)) hwrites.2⟩
      rw [hsame field.key List.mem_cons_self]
      exact hwrites.1

theorem writes_entry (hnodup : fields.keys.Nodup) (row : Row) :
    fields.Writes (fields.entry row) row := by
  induction fields with
  | nil => trivial
  | cons field rest ih =>
      obtain ⟨hfresh, hrest⟩ := List.nodup_cons.mp hnodup
      refine ⟨if_pos rfl, (ih hrest row.2).congr fun key hkey => ?_⟩
      have hother : key ≠ field.key := fun hsame => hfresh (hsame ▸ hkey)
      exact if_neg hother

theorem Writes.written {row : Row} (hwrites : fields.Writes look row) : fields.Written look := by
  induction fields with
  | nil => trivial
  | cons field rest ih => exact ⟨.inr ⟨row.1, hwrites.1⟩, ih hwrites.2⟩

theorem written_nothing (fields : Fields Number Row) : fields.Written fun _ => none := by
  induction fields with
  | nil => trivial
  | cons field rest ih => exact ⟨.inl rfl, ih⟩

theorem Writes.decode_iff {row : Row} (hwrites : fields.Writes look row) :
    fields.decode look = some row ↔ fields.Faithful row := by
  induction fields with
  | nil => exact iff_of_true rfl trivial
  | cons field rest ih =>
      rw [decode_cons_eq_some, Faithful, hwrites.1, field.roundtrip, ih hwrites.2]

theorem Written.faithful {row : Row} (hwritten : fields.Written look)
    (hread : fields.decode look = some row) : fields.Faithful row := by
  induction fields with
  | nil => trivial
  | cons field rest ih =>
      obtain ⟨hvalue, hmore⟩ := decode_cons_eq_some.mp hread
      refine ⟨?_, ih hwritten.2 hmore⟩
      rcases hwritten.1 with hnone | ⟨value, hsome⟩
      · rw [hnone] at hvalue
        exact field.settles_missing row.1 hvalue
      · rw [hsome] at hvalue
        exact field.settles value row.1 hvalue

theorem Writes.decode_patched_iff {old new : Row} (hwrites : fields.Writes look old) :
    fields.decode (fun key => patchedAt (look key) (patch key)) = some new ↔
      fields.Patched patch old new := by
  induction fields with
  | nil => exact iff_of_true rfl trivial
  | cons field rest ih => rw [decode_cons_eq_some, Patched, hwrites.1, ih hwrites.2]

theorem Patched.update_iff {old new : Row} (hpatched : fields.Patched patch old new)
    (hadmits : fields.Admits patch) :
    fields.update patch old = some new ↔ fields.Kept patch old := by
  induction fields with
  | nil => exact iff_of_true rfl trivial
  | cons field rest ih =>
      rw [update_cons_eq_some, Kept, field.update_iff hadmits.1 hpatched.1,
        ih hpatched.2 hadmits.2]

theorem Written.decode_again {again : String → Option (Document Number)} {new : Row}
    (hwritten : fields.Written look) (hadmits : fields.Admits patch)
    (hread : fields.decode (fun key => patchedAt (look key) (patch key)) = some new)
    (hwrites : fields.Writes again new) :
    fields.decode (fun key => patchedAt (again key) (patch key)) = some new := by
  induction fields with
  | nil => rfl
  | cons field rest ih =>
      obtain ⟨hvalue, hmore⟩ := decode_cons_eq_some.mp hread
      rw [decode_cons_eq_some, hwrites.1]
      exact ⟨field.decode_again hadmits.1 hwritten.1 hvalue,
        ih hwritten.2 hadmits.2 hmore hwrites.2⟩

end Fields

/-- How records are written and read: as objects, which may refuse other keys, and read
also from arrays. -/
structure Struct (Number S : Type) where
  Row : Type
  fields : Fields Number Row
  row : S ≃ Row
  denyUnknown : Bool
  nodup : fields.keys.Nodup

namespace Struct

/-- The keys that a record may have. -/
def Known (struct : Struct Number S) (document : Document Number) : Prop :=
  ∀ key ∈ document.keys, struct.denyUnknown = true → key ∈ struct.fields.keys

instance (struct : Struct Number S) (document : Document Number) :
    Decidable (struct.Known document) :=
  inferInstanceAs (Decidable (∀ key ∈ document.keys, _ → _))

def encode (struct : Struct Number S) (value : S) : Document Number :=
  ofLookup struct.fields.keys (struct.fields.entry (struct.row value))

def decode (struct : Struct Number S) (document : Document Number) : Option S :=
  match document with
  | .obj .. =>
      if struct.Known document then
        (struct.fields.decode document.lookup).map struct.row.symm
      else none
  | .arr items => (struct.fields.decodeItems items).map struct.row.symm
  | _ => none

/-- What a patch means for a record: what it means for each field. -/
def update (struct : Struct Number S) (patch : Document Number) (old : S) : Option S :=
  (struct.fields.update patch.lookup (struct.row old)).map struct.row.symm

def Kept (struct : Struct Number S) (patch : Document Number) (old : S) : Prop :=
  struct.fields.Kept patch.lookup (struct.row old)

def Admits (struct : Struct Number S) (patch : Document Number) : Prop :=
  struct.fields.Admits patch.lookup

def Faithful (struct : Struct Number S) (value : S) : Prop :=
  struct.fields.Faithful (struct.row value)

section Laws

variable {struct : Struct Number S} {document target patch : Document Number}
  {value old new : S}

theorem map_row_eq_some {row : Option struct.Row} :
    row.map struct.row.symm = some value ↔ row = some (struct.row value) := by
  cases row with
  | none => simp
  | some row => simp [Equiv.symm_apply_eq]

theorem decode_eq_some_of_isObject (hobject : document.isObject = true) :
    struct.decode document = some value ↔ struct.Known document ∧
      struct.fields.decode document.lookup = some (struct.row value) := by
  cases document with
  | obj keys entries =>
      rw [decode]
      by_cases hknown : struct.Known (.obj keys entries)
      · rw [if_pos hknown, map_row_eq_some, and_iff_right hknown]
      · rw [if_neg hknown]
        exact iff_of_false (fun hread => nomatch hread) fun hread => hknown hread.1
  | _ => cases hobject

theorem isObject_encode (value : S) : (struct.encode value).isObject = true := rfl

theorem lookup_encode (value : S) :
    (struct.encode value).lookup = struct.fields.entry (struct.row value) := by
  funext key
  exact lookup_ofLookup (fun _ => Fields.mem_keys_of_isSome_entry) key

theorem writes_lookup_encode (value : S) :
    struct.fields.Writes (struct.encode value).lookup (struct.row value) := by
  rw [lookup_encode]
  exact Fields.writes_entry struct.nodup (struct.row value)

theorem known_encode (value : S) : struct.Known (struct.encode value) := by
  intro key hkey _
  rw [mem_keys_iff, lookup_encode] at hkey
  exact Fields.mem_keys_of_isSome_entry hkey

theorem decode_encode_iff (value : S) :
    struct.decode (struct.encode value) = some value ↔ struct.Faithful value := by
  rw [decode_eq_some_of_isObject (isObject_encode value), and_iff_right (known_encode value)]
  exact (writes_lookup_encode value).decode_iff

theorem faithful_of_decode_encode {result : S}
    (hread : struct.decode (struct.encode value) = some result) : struct.Faithful result := by
  rw [decode_eq_some_of_isObject (isObject_encode value)] at hread
  exact (writes_lookup_encode value).written.faithful hread.2

/-- The codec of whole records. -/
def codec (struct : Struct Number S) : Codec Number S where
  encode := struct.encode
  decode := struct.decode
  faithful := struct.Faithful
  decode_null := rfl
  roundtrip := decode_encode_iff
  settles _ _ := faithful_of_decode_encode

theorem lookup_mergePatch_of_isObject (target : Document Number)
    (hobject : patch.isObject = true) :
    (mergePatch target patch).lookup =
      fun key => patchedAt (target.lookup key) (patch.lookup key) := by
  cases patch with
  | obj keys value =>
      funext key
      exact lookup_mergePatch target keys value key
  | _ => cases hobject

theorem isObject_mergePatch (target : Document Number) (hobject : patch.isObject = true) :
    (mergePatch target patch).isObject = true := by
  cases patch with
  | obj keys value => rfl
  | _ => cases hobject

/-- Reading a patched record reads each of its fields. -/
theorem decode_mergePatch_iff (hobject : patch.isObject = true) :
    struct.decode (mergePatch (struct.encode old) patch) = some new ↔
      struct.Known (mergePatch (struct.encode old) patch) ∧
        struct.fields.Patched patch.lookup (struct.row old) (struct.row new) := by
  rw [decode_eq_some_of_isObject (isObject_mergePatch _ hobject),
    lookup_mergePatch_of_isObject _ hobject, (writes_lookup_encode old).decode_patched_iff]

/-- Patching a written record and reading it back is the meaning of the patch exactly
when the fields come through. -/
theorem update_iff_of_decode (hobject : patch.isObject = true) (hadmits : struct.Admits patch)
    (hread : struct.decode (mergePatch (struct.encode old) patch) = some new) :
    struct.update patch old = some new ↔ struct.Kept patch old := by
  obtain ⟨_, hpatched⟩ := (decode_mergePatch_iff hobject).mp hread
  rw [update, map_row_eq_some]
  exact hpatched.update_iff hadmits

/-- A record that refuses other keys has been read from an object without them. -/
theorem lookup_eq_none_of_decode {key : String} (hdeny : struct.denyUnknown = true)
    (hread : struct.decode document = some value) (hother : key ∉ struct.fields.keys) :
    document.lookup key = none := by
  cases document with
  | obj keys entries =>
      obtain ⟨hknown, _⟩ := (decode_eq_some_of_isObject rfl).mp hread
      by_contra hsome
      have hkey : key ∈ (Document.obj keys entries).keys :=
        mem_keys_iff.mpr (Option.isSome_iff_ne_none.mpr hsome)
      exact hother (hknown key hkey hdeny)
  | _ => rfl

/-- A second application of a patch changes nothing. -/
theorem decode_again (hobject : patch.isObject = true) (hadmits : struct.Admits patch)
    (htarget : struct.fields.Written target.lookup)
    (hread : struct.decode (mergePatch target patch) = some new) :
    struct.decode (mergePatch (struct.encode new) patch) = some new := by
  have hmerged := isObject_mergePatch (struct.encode new) hobject
  have hlookup := lookup_mergePatch_of_isObject (struct.encode new) hobject
  rw [decode_eq_some_of_isObject (isObject_mergePatch _ hobject),
    lookup_mergePatch_of_isObject _ hobject] at hread
  rw [decode_eq_some_of_isObject hmerged, hlookup]
  obtain ⟨hknown, hentries⟩ := hread
  refine ⟨fun key hkey hdeny => ?_,
    htarget.decode_again hadmits hentries (writes_lookup_encode new)⟩
  rw [mem_keys_iff, hlookup] at hkey
  -- A key comes from the record that was read, or from the patch and then was known.
  cases hpatch : patch.lookup key with
  | none =>
      simp only [hpatch, patchedAt] at hkey
      exact known_encode new key (mem_keys_iff.mpr hkey) hdeny
  | some value =>
      apply hknown key _ hdeny
      rw [mem_keys_iff, lookup_mergePatch_of_isObject _ hobject]
      simp only [hpatch] at hkey ⊢
      cases value with
      | null => cases hkey
      | _ => rfl

end Laws

end Struct

/-! ## Nested records and tagged unions -/

/-- A codec whose values are written as objects, so that a patch descends into them. -/
structure Patchable (Number A : Type) extends Codec Number A where
  update : Document Number → A → Option A
  admits : Document Number → Prop
  kept : Document Number → A → Prop
  isObject_encode : ∀ value, (encode value).isObject = true
  update_iff : ∀ patch old new, patch.isObject = true → admits patch →
    decode (mergePatch (encode old) patch) = some new →
      (update patch old = some new ↔ kept patch old)
  decode_again : ∀ patch target new, patch.isObject = true → admits patch →
    (target.isObject = false ∨ ∃ old, target = encode old) →
    decode (mergePatch target patch) = some new →
      decode (mergePatch (encode new) patch) = some new

namespace Struct

theorem written_lookup {struct : Struct Number S} {target : Document Number}
    (htarget : target.isObject = false ∨ ∃ old, target = struct.encode old) :
    struct.fields.Written target.lookup := by
  rcases htarget with hplain | ⟨old, rfl⟩
  · have hnothing : target.lookup = fun _ => none := by
      cases target with
      | obj keys value => cases hplain
      | _ => rfl
    rw [hnothing]
    exact struct.fields.written_nothing
  · exact (writes_lookup_encode old).written

def patchable (struct : Struct Number S) : Patchable Number S where
  toCodec := struct.codec
  update := struct.update
  admits := struct.Admits
  kept := struct.Kept
  isObject_encode := isObject_encode
  update_iff _ _ _ := update_iff_of_decode
  decode_again _ _ _ hobject hadmits htarget :=
    decode_again hobject hadmits (written_lookup htarget)

end Struct

namespace Field

theorem decodeOptional_of_isObject {codec : Codec Number A} {entry : Document Number}
    {result : Option A} (hobject : entry.isObject = true) :
    decodeOptional codec (some entry) = some result ↔
      ∃ value, codec.decode entry = some value ∧ some value = result := by
  cases entry with
  | obj keys value => exact Option.map_eq_some_iff
  | _ => cases hobject

/-- An optional field that a patch descends into. -/
def nested (key : String) (inner : Patchable Number A) (leaveOut : Bool) :
    Field Number (Option A) where
  key := key
  encode := encodeOptional inner.toCodec leaveOut
  decode := decodeOptional inner.toCodec
  patched patch old :=
    match old with
    | some value =>
        if patch.isObject then (inner.update patch value).map some
        else decodeOptional inner.toCodec (some patch)
    | none => decodeOptional inner.toCodec (some (mergePatch .null patch))
  faithful := OptionalFaithful inner.toCodec
  admits := inner.admits
  keeps patch old := ∀ value, old = some value → patch.isObject = true → inner.kept patch value
  roundtrip := decodeOptional_roundtrip inner.toCodec leaveOut
  settles := decodeOptional_settles inner.toCodec leaveOut
  settles_missing := decodeOptional_settles_missing inner.toCodec
  patched_iff patch old new hadmits hread := by
    rw [getD_encodeOptional] at hread
    cases old with
    | none => exact iff_of_true hread fun _ hvalue => nomatch hvalue
    | some value =>
        by_cases hobject : patch.isObject = true
        · rw [decodeOptional_of_isObject (Struct.isObject_mergePatch _ hobject)] at hread
          obtain ⟨result, hresult, rfl⟩ := hread
          have hiff := inner.update_iff patch value result hobject hadmits hresult
          simp only [hobject, if_true, Option.map_eq_some_iff, Option.some.injEq,
            exists_eq_right, hiff, forall_const, forall_eq']
        · rw [Bool.not_eq_true] at hobject
          rw [mergePatch_eq_of_not_isObject hobject] at hread
          simp only [hobject, Bool.false_eq_true, if_false, false_implies, implies_true,
            iff_true]
          exact hread
  patched_again patch target new hadmits htarget hread := by
    rw [getD_encodeOptional]
    by_cases hobject : patch.isObject = true
    · rw [decodeOptional_of_isObject (Struct.isObject_mergePatch _ hobject)] at hread
      obtain ⟨result, hresult, rfl⟩ := hread
      rw [decodeOptional_of_isObject (Struct.isObject_mergePatch _ hobject)]
      refine ⟨result, inner.decode_again patch _ result hobject hadmits ?_ hresult, rfl⟩
      rcases htarget with rfl | ⟨old, rfl⟩
      · exact .inl rfl
      · rw [getD_encodeOptional]
        cases old with
        | none => exact .inl rfl
        | some value => exact .inr ⟨value, rfl⟩
    · rw [Bool.not_eq_true] at hobject
      rw [mergePatch_eq_of_not_isObject hobject] at hread ⊢
      exact hread

end Field

/-- A union whose variants are told apart by a tag inside the object. -/
structure Union (Number U K : Type) (S : K → Type) where
  tag : String
  name : K → String
  parse : String → Option K
  parse_name : ∀ kind, parse (name kind) = some kind
  variant : (kind : K) → Struct Number (S kind)
  fresh : ∀ kind, tag ∉ (variant kind).fields.keys
  kinds : U ≃ Σ kind, S kind

namespace Union

variable {U K : Type} {S : K → Type}

/-- The tag as a field of its variant. -/
def tagField (tag name : String) : Field Number Unit :=
  .required tag (.lossless (fun _ => .str name)
    (fun
      | .str text => if text = name then some () else none
      | _ => none) rfl fun _ => if_pos rfl) fun _ => rfl

/-- A variant is written and read as a record that has the tag as well. -/
def tagged (union : Union Number U K S) (kind : K) : Struct Number (S kind) where
  Row := Unit × (union.variant kind).Row
  fields := .cons (tagField union.tag (union.name kind)) (union.variant kind).fields
  row := (union.variant kind).row.trans (Equiv.punitProd _).symm
  denyUnknown := (union.variant kind).denyUnknown
  nodup := List.nodup_cons.mpr ⟨union.fresh kind, (union.variant kind).nodup⟩

/-- The tag comes as an entry, or first in an array. -/
def tagOf (union : Union Number U K S) : Document Number → Option String
  | .obj keys value =>
      match (Document.obj keys value).lookup union.tag with
      | some (.str name) => some name
      | _ => none
  | .arr (.str name :: _) => some name
  | _ => none

def encode (union : Union Number U K S) (value : U) : Document Number :=
  (union.tagged (union.kinds value).1).encode (union.kinds value).2

def decode (union : Union Number U K S) (document : Document Number) : Option U := do
  let name ← union.tagOf document
  let kind ← union.parse name
  let value ← (union.tagged kind).decode document
  return union.kinds.symm ⟨kind, value⟩

def update (union : Union Number U K S) (patch : Document Number) (old : U) : Option U :=
  ((union.tagged (union.kinds old).1).update patch (union.kinds old).2).map fun value =>
    union.kinds.symm ⟨(union.kinds old).1, value⟩

/-- Patches that leave the tag alone. -/
structure Admits (union : Union Number U K S) (patch : Document Number) : Prop where
  untagged : patch.lookup union.tag = none
  variants : ∀ kind, (union.tagged kind).Admits patch

def Kept (union : Union Number U K S) (patch : Document Number) (old : U) : Prop :=
  (union.tagged (union.kinds old).1).Kept patch (union.kinds old).2

section Laws

variable {union : Union Number U K S} {document target patch : Document Number}

theorem lookup_tag_encode (kind : K) (value : S kind) :
    ((union.tagged kind).encode value).lookup union.tag = some (.str (union.name kind)) := by
  rw [Struct.lookup_encode]
  exact if_pos rfl

theorem tagOf_of_lookup {name : String} (hlookup : document.lookup union.tag = some (.str name)) :
    union.tagOf document = some name := by
  cases document with
  | obj keys value => simp only [tagOf, hlookup]
  | _ => cases hlookup

theorem decode_of_tag {kind : K} {result : U}
    (htag : union.tagOf document = some (union.name kind)) :
    union.decode document = some result ↔ ∃ value,
      (union.tagged kind).decode document = some value ∧
        union.kinds.symm ⟨kind, value⟩ = result := by
  simp only [decode, htag, Option.bind_eq_bind, Option.bind_some, union.parse_name,
    Option.pure_def, Option.bind_eq_some_iff, Option.some.injEq]

theorem tagOf_encode (kind : K) (value : S kind) :
    union.tagOf ((union.tagged kind).encode value) = some (union.name kind) :=
  tagOf_of_lookup (lookup_tag_encode kind value)

theorem tagOf_mergePatch (hobject : patch.isObject = true) (hadmits : union.Admits patch)
    (kind : K) (value : S kind) :
    union.tagOf (mergePatch ((union.tagged kind).encode value) patch) =
      some (union.name kind) := by
  apply tagOf_of_lookup
  simp only [Struct.lookup_mergePatch_of_isObject _ hobject, hadmits.untagged,
    lookup_tag_encode, patchedAt]

/-- What is no object has no tag after an untagged patch. -/
theorem tagOf_mergePatch_of_not_isObject (hobject : patch.isObject = true)
    (hadmits : union.Admits patch) (htarget : target.isObject = false) :
    union.tagOf (mergePatch target patch) = none := by
  cases patch with
  | obj keys value =>
      have hlookup := congrFun (Struct.lookup_mergePatch_of_isObject target hobject) union.tag
      have hmissing : target.lookup union.tag = none := by
        cases target with
        | obj keys value => cases htarget
        | _ => rfl
      rw [hadmits.untagged, hmissing] at hlookup
      simp only [mergePatch, tagOf] at hlookup ⊢
      rw [hlookup]
      rfl
  | _ => cases hobject

theorem encode_symm (kind : K) (value : S kind) :
    union.encode (union.kinds.symm ⟨kind, value⟩) = (union.tagged kind).encode value := by
  rw [encode, Equiv.apply_symm_apply]

theorem symm_mk_inj {kind : K} {left right : S kind} :
    union.kinds.symm ⟨kind, left⟩ = union.kinds.symm ⟨kind, right⟩ ↔ left = right := by
  rw [union.kinds.symm.apply_eq_iff_eq, Sigma.mk.injEq]
  simp

/-- The object that is read has the kind of the one that was written. -/
theorem decode_mergePatch_iff (hobject : patch.isObject = true) (hadmits : union.Admits patch)
    {kind : K} {old : S kind} {new : U} :
    union.decode (mergePatch (union.encode (union.kinds.symm ⟨kind, old⟩)) patch) = some new ↔
      ∃ value, (union.tagged kind).decode (mergePatch ((union.tagged kind).encode old) patch) =
          some value ∧ union.kinds.symm ⟨kind, value⟩ = new := by
  rw [encode_symm]
  exact decode_of_tag (tagOf_mergePatch hobject hadmits kind old)

end Laws

def patchable (union : Union Number U K S) : Patchable Number U where
  encode := union.encode
  decode := union.decode
  faithful value := (union.tagged (union.kinds value).1).Faithful (union.kinds value).2
  decode_null := rfl
  roundtrip value := by
    obtain ⟨⟨kind, inner⟩, rfl⟩ := union.kinds.symm.surjective value
    rw [encode_symm, decode_of_tag (tagOf_encode kind inner), Equiv.apply_symm_apply,
      ← Struct.decode_encode_iff]
    simp only [symm_mk_inj, exists_eq_right]
  settles value result hread := by
    rw [encode, decode_of_tag (tagOf_encode _ _)] at hread
    obtain ⟨read, hread, rfl⟩ := hread
    rw [Equiv.apply_symm_apply]
    exact Struct.faithful_of_decode_encode hread
  update := union.update
  admits := union.Admits
  kept := union.Kept
  isObject_encode value := rfl
  update_iff patch old new hobject hadmits hread := by
    obtain ⟨⟨kind, inner⟩, rfl⟩ := union.kinds.symm.surjective old
    rw [decode_mergePatch_iff hobject hadmits] at hread
    obtain ⟨value, hvalue, rfl⟩ := hread
    rw [update, Kept, Equiv.apply_symm_apply,
      ← Struct.update_iff_of_decode hobject (hadmits.variants kind) hvalue]
    simp only [Option.map_eq_some_iff, symm_mk_inj, exists_eq_right]
  decode_again patch target new hobject hadmits htarget hread := by
    rcases htarget with hplain | ⟨old, rfl⟩
    · rw [decode, tagOf_mergePatch_of_not_isObject hobject hadmits hplain] at hread
      cases hread
    · obtain ⟨⟨kind, inner⟩, rfl⟩ := union.kinds.symm.surjective old
      rw [decode_mergePatch_iff hobject hadmits] at hread
      obtain ⟨value, hvalue, rfl⟩ := hread
      rw [decode_mergePatch_iff hobject hadmits]
      exact ⟨value, Struct.decode_again hobject (hadmits.variants kind)
        (Struct.written_lookup (.inr ⟨inner, rfl⟩)) hvalue, rfl⟩

end Union

/-! ## Records that lose nothing -/

/-- Every value of the field survives, whatever the patch. -/
structure Field.Lossless (field : Field Number A) : Prop where
  faithful : ∀ value, field.faithful value
  keeps : ∀ patch value, field.keeps patch value

/-- The field admits every patch. -/
def Field.Open (field : Field Number A) : Prop :=
  ∀ patch, field.admits patch

structure Patchable.Lossless (inner : Patchable Number A) : Prop where
  faithful : ∀ value, inner.faithful value
  kept : ∀ patch value, inner.kept patch value

namespace Field

theorem Lossless.kept {field : Field Number A} (hlossless : field.Lossless)
    (patch : Option (Document Number)) (value : A) : field.Kept patch value := by
  cases patch with
  | none => exact hlossless.faithful value
  | some entry => exact fun _ => hlossless.keeps entry value

/-- What a patch replaces need not survive. -/
theorem kept_iff_of_keeps {field : Field Number A}
    (hkeeps : ∀ patch value, field.keeps patch value) {patch : Option (Document Number)}
    {value : A} : field.Kept patch value ↔ (patch = none → field.faithful value) := by
  cases patch with
  | none => simp [Kept]
  | some entry => simp [Kept, hkeeps]

/-- A field that a patch does not mention stays. -/
theorem eq_of_untouched {field : Field Number A} {old new : A}
    {patch : Option (Document Number)}
    (hread : field.decode (patchedAt (field.encode old) patch) = some new)
    (hpatch : patch = none) (hlossless : field.Lossless) : new = old := by
  have hkeeps := (field.roundtrip old).mpr (hlossless.faithful old)
  rw [hpatch, patchedAt, hkeeps] at hread
  exact (Option.some.inj hread).symm

section Constructors

variable {key : String} {codec : Codec Number A} {leaveOut : Bool}
  {hplain : ∀ value, (codec.encode value).isObject = false}

theorem lossless_required (hcodec : ∀ value, codec.faithful value) :
    (required key codec hplain).Lossless :=
  ⟨hcodec, fun _ _ => trivial⟩

theorem lossless_requiredWhole (hcodec : ∀ value, codec.faithful value) :
    (requiredWhole key codec).Lossless :=
  ⟨hcodec, fun _ _ => trivial⟩

theorem lossless_defaulted {missing : A} {hmissing : codec.faithful missing}
    (hcodec : ∀ value, codec.faithful value) :
    (defaulted key codec missing hmissing hplain).Lossless :=
  ⟨hcodec, fun _ _ => trivial⟩

theorem lossless_optional (hcodec : ∀ value, codec.faithful value) :
    (optional key codec leaveOut hplain).Lossless :=
  ⟨fun _ inner _ => hcodec inner, fun _ _ => trivial⟩

theorem lossless_fallingBack {missing : A} {hcodec : ∀ value, codec.faithful value} :
    (fallingBack key codec missing hcodec hplain).Lossless :=
  ⟨hcodec, fun _ _ => trivial⟩

theorem lossless_nested {inner : Patchable Number A} (hinner : inner.Lossless) :
    (nested key inner leaveOut).Lossless :=
  ⟨fun _ value _ => hinner.faithful value, fun patch _ value _ _ => hinner.kept patch value⟩

theorem open_required : (required key codec hplain).Open := fun _ => trivial

theorem open_defaulted {missing : A} {hmissing : codec.faithful missing} :
    (defaulted key codec missing hmissing hplain).Open := fun _ => trivial

theorem open_optional : (optional key codec leaveOut hplain).Open := fun _ => trivial

theorem open_nested {inner : Patchable Number A} (hinner : ∀ patch, inner.admits patch) :
    (nested key inner leaveOut).Open := hinner

end Constructors

end Field

namespace Fields

def Lossless : {Row : Type} → Fields Number Row → Prop
  | _, .nil => True
  | _, .cons field rest => field.Lossless ∧ rest.Lossless

def Open : {Row : Type} → Fields Number Row → Prop
  | _, .nil => True
  | _, .cons field rest => field.Open ∧ rest.Open

variable {Row : Type} {fields : Fields Number Row}

theorem Lossless.faithful (hlossless : fields.Lossless) (row : Row) : fields.Faithful row := by
  induction fields with
  | nil => trivial
  | cons field rest ih => exact ⟨hlossless.1.faithful row.1, ih hlossless.2 row.2⟩

theorem Lossless.kept (hlossless : fields.Lossless)
    (patch : String → Option (Document Number)) (row : Row) : fields.Kept patch row := by
  induction fields with
  | nil => trivial
  | cons field rest ih => exact ⟨hlossless.1.kept _ row.1, ih hlossless.2 row.2⟩

/-- Fields that lose nothing need no condition. -/
theorem kept_cons_of_lossless {field : Field Number A} {patch : String → Option (Document Number)}
    {row : A × Row} (hlossless : field.Lossless) :
    (cons field fields).Kept patch row ↔ fields.Kept patch row.2 :=
  and_iff_right (hlossless.kept _ row.1)

/-- Without a patch the fields have to survive. -/
theorem kept_nothing_iff {row : Row} :
    fields.Kept (fun _ => none) row ↔ fields.Faithful row := by
  induction fields with
  | nil => exact Iff.rfl
  | cons field rest ih => exact and_congr Iff.rfl ih

theorem Open.admits (hopen : fields.Open) (patch : String → Option (Document Number)) :
    fields.Admits patch := by
  induction fields with
  | nil => trivial
  | cons field rest ih => exact ⟨fun value _ => hopen.1 value, ih hopen.2⟩

end Fields

theorem Struct.lossless_patchable {struct : Struct Number S}
    (hlossless : struct.fields.Lossless) : struct.patchable.Lossless :=
  ⟨fun value => hlossless.faithful (struct.row value),
    fun patch value => hlossless.kept patch.lookup (struct.row value)⟩

end Relayer.Json
