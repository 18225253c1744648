import Mathlib

/-!
# IP addresses and their textual forms

The standard library's address reader, character by character: decimal octets
without leading zeros, hexadecimal groups, one `::` gap and a trailing embedded
IPv4 part.  Two facts about it are used later.  The reader only consumes
characters of a fixed alphabet, so text outside that alphabet is never an
address, and it recovers every IPv4 address from its dotted-decimal form.
-/

namespace Relayer.Address

structure Ipv4Addr where
  a : UInt8
  b : UInt8
  c : UInt8
  d : UInt8
  deriving DecidableEq, Repr

/-- Eight 16-bit segments, most significant first. -/
structure Ipv6Addr where
  s0 : UInt16
  s1 : UInt16
  s2 : UInt16
  s3 : UInt16
  s4 : UInt16
  s5 : UInt16
  s6 : UInt16
  s7 : UInt16
  deriving DecidableEq, Repr

inductive IpAddr where
  | v4 (address : Ipv4Addr)
  | v6 (address : Ipv6Addr)
  deriving DecidableEq, Repr

namespace Ipv4Addr

def isPrivate (ip : Ipv4Addr) : Bool :=
  ip.a == 10 || (ip.a == 172 && 16 ≤ ip.b && ip.b ≤ 31) || (ip.a == 192 && ip.b == 168)

def isLoopback (ip : Ipv4Addr) : Bool := ip.a == 127

def isLinkLocal (ip : Ipv4Addr) : Bool := ip.a == 169 && ip.b == 254

def isUnspecified (ip : Ipv4Addr) : Bool := ip == ⟨0, 0, 0, 0⟩

end Ipv4Addr

namespace Ipv6Addr

def isUniqueLocal (ip : Ipv6Addr) : Bool := ip.s0 &&& 0xfe00 == 0xfc00

def isLoopback (ip : Ipv6Addr) : Bool := ip == ⟨0, 0, 0, 0, 0, 0, 0, 1⟩

def isUnicastLinkLocal (ip : Ipv6Addr) : Bool := ip.s0 &&& 0xffc0 == 0xfe80

def isUnspecified (ip : Ipv6Addr) : Bool := ip == ⟨0, 0, 0, 0, 0, 0, 0, 0⟩

/-- The IPv4 address inside `::ffff:a.b.c.d`. -/
def toIpv4Mapped (ip : Ipv6Addr) : Option Ipv4Addr :=
  if ip.s0 == 0 && ip.s1 == 0 && ip.s2 == 0 && ip.s3 == 0 && ip.s4 == 0 &&
      ip.s5 == 0xffff then
    some ⟨(ip.s6 >>> 8).toUInt8, ip.s6.toUInt8, (ip.s7 >>> 8).toUInt8, ip.s7.toUInt8⟩
  else
    none

def ofSegments : List UInt16 → Option Ipv6Addr
  | [s0, s1, s2, s3, s4, s5, s6, s7] => some ⟨s0, s1, s2, s3, s4, s5, s6, s7⟩
  | _ => none

end Ipv6Addr

/-- A reader takes a value from the front of the text and returns the rest; a
failing reader leaves the text to the caller. -/
def Reader (A : Type) := List Char → Option (A × List Char)

namespace Reader

variable {A B : Type}

instance : Monad Reader where
  pure value := fun input => some (value, input)
  bind read next := fun input =>
    match read input with
    | some (value, rest) => next value rest
    | none => none

/-- Every successful read removes only characters that satisfy `allowed`. -/
def Consumes (allowed : Char → Prop) (read : Reader A) : Prop :=
  ∀ input value rest, read input = some (value, rest) →
    ∃ taken, input = taken ++ rest ∧ ∀ char ∈ taken, allowed char

theorem consumes_pure (allowed : Char → Prop) (value : A) :
    Consumes allowed (pure value : Reader A) := by
  intro input value' rest hread
  cases hread
  exact ⟨[], rfl, by simp⟩

theorem consumes_bind {allowed : Char → Prop} {read : Reader A}
    {next : A → Reader B} (hread : Consumes allowed read)
    (hnext : ∀ value, Consumes allowed (next value)) :
    Consumes allowed (read >>= next) := by
  intro input value rest hbind
  cases hfirst : read input with
  | none => simp [Bind.bind, hfirst] at hbind
  | some result =>
      obtain ⟨first, middle⟩ := result
      obtain ⟨taken, hsplit, htaken⟩ := hread input first middle hfirst
      have hrest : next first middle = some (value, rest) := by
        simpa [Bind.bind, hfirst] using hbind
      obtain ⟨taken', hsplit', htaken'⟩ := hnext first middle value rest hrest
      refine ⟨taken ++ taken', by rw [hsplit, hsplit', List.append_assoc], ?_⟩
      intro char hchar
      rcases List.mem_append.mp hchar with hmem | hmem
      · exact htaken char hmem
      · exact htaken' char hmem

/-- A reader that only consumes allowed characters cannot consume a whole text
that holds another one. -/
theorem Consumes.not_whole {allowed : Char → Prop} {read : Reader A}
    (hread : Consumes allowed read) {input : List Char} {char : Char}
    (hmem : char ∈ input) (hforeign : ¬ allowed char) (value : A) :
    read input ≠ some (value, []) := by
  intro hwhole
  obtain ⟨taken, hsplit, htaken⟩ := hread input value [] hwhole
  rw [List.append_nil] at hsplit
  exact hforeign (htaken char (hsplit ▸ hmem))

end Reader

open Reader

def digitValue (char : Char) : Option ℕ :=
  if '0' ≤ char ∧ char ≤ '9' then some (char.toNat - '0'.toNat)
  else if 'a' ≤ char ∧ char ≤ 'z' then some (char.toNat - 'a'.toNat + 10)
  else if 'A' ≤ char ∧ char ≤ 'Z' then some (char.toNat - 'A'.toNat + 10)
  else none

/-- `char::to_digit`. -/
def toDigit (radix : ℕ) (char : Char) : Option ℕ :=
  (digitValue char).filter (· < radix)

/-- The longest run of digits at the front of the text. -/
def takeDigits (radix : ℕ) : List Char → List ℕ × List Char
  | [] => ([], [])
  | char :: tail =>
      match toDigit radix char with
      | some digit =>
          let (digits, rest) := takeDigits radix tail
          (digit :: digits, rest)
      | none => ([], char :: tail)

def digitsValue (radix : ℕ) (digits : List ℕ) : ℕ :=
  digits.foldl (fun value digit => value * radix + digit) 0

/-- A number of at most `maxDigits` digits that does not exceed `bound`. -/
def readNumber (radix maxDigits : ℕ) (allowZeroPrefix : Bool) (bound : ℕ) :
    Reader ℕ := fun input =>
  let (digits, rest) := takeDigits radix input
  let value := digitsValue radix digits
  if maxDigits < digits.length then none
  else if bound < value then none
  else if digits.length = 0 then none
  else if !allowZeroPrefix && digits.head? == some 0 && 1 < digits.length then none
  else some (value, rest)

def readGivenChar (expected : Char) : Reader Unit
  | char :: rest => if char = expected then some ((), rest) else none
  | [] => none

/-- Every element but the first is preceded by a separator. -/
def readSeparator {A : Type} (separator : Char) (index : ℕ) (read : Reader A) :
    Reader A :=
  if 0 < index then readGivenChar separator >>= fun _ => read else read

def readOctet (index : ℕ) : Reader UInt8 :=
  readSeparator '.' index (readNumber 10 3 false 255) >>= fun value =>
    pure (UInt8.ofNat value)

def readIpv4Addr : Reader Ipv4Addr := do
  let a ← readOctet 0
  let b ← readOctet 1
  let c ← readOctet 2
  let d ← readOctet 3
  pure ⟨a, b, c, d⟩

def joinOctets (high low : UInt8) : UInt16 := high.toUInt16 <<< 8 ||| low.toUInt16

/-- Reads up to `limit` groups from position `index` on.  A trailing embedded
IPv4 address stands for two groups and ends the run, which the flag reports. -/
def readGroups (index : ℕ) : ℕ → List Char → (List UInt16 × Bool) × List Char
  | 0, input => (([], false), input)
  | limit + 1, input =>
      let embedded :=
        if 0 < limit then readSeparator ':' index readIpv4Addr input else none
      match embedded with
      | some (ip, rest) => (([joinOctets ip.a ip.b, joinOctets ip.c ip.d], true), rest)
      | none =>
          match readSeparator ':' index (readNumber 16 4 true 65535) input with
          | some (group, rest) =>
              let ((groups, ipv4), rest') := readGroups (index + 1) limit rest
              ((UInt16.ofNat group :: groups, ipv4), rest')
          | none => (([], false), input)

def readIpv6Addr : Reader Ipv6Addr := fun input =>
  let ((head, headIpv4), rest) := readGroups 0 8 input
  if head.length = 8 then
    (Ipv6Addr.ofSegments head).map fun ip => (ip, rest)
  -- an IPv4 part is not allowed in front of the gap
  else if headIpv4 then none
  else
    match (readGivenChar ':' >>= fun _ => readGivenChar ':') rest with
    | none => none
    | some (_, afterGap) =>
        let ((tail, _), rest') := readGroups 0 (8 - (head.length + 1)) afterGap
        let gap := List.replicate (8 - head.length - tail.length) 0
        (Ipv6Addr.ofSegments (head ++ gap ++ tail)).map fun ip => (ip, rest')

/-- `str::parse::<IpAddr>`: IPv4 is tried first and the whole text must be
consumed. -/
def parseIpAddr (text : String) : Option IpAddr :=
  let read :=
    match readIpv4Addr text.toList with
    | some (ip, rest) => some (IpAddr.v4 ip, rest)
    | none => (readIpv6Addr text.toList).map fun (ip, rest) => (IpAddr.v6 ip, rest)
  match read with
  | some (ip, []) => some ip
  | _ => none

/-! ## The alphabet of addresses -/

/-- Hexadecimal digits, colons and dots: everything the reader ever consumes. -/
def IsAddressChar (char : Char) : Prop :=
  (toDigit 16 char).isSome ∨ char = ':' ∨ char = '.'

instance (char : Char) : Decidable (IsAddressChar char) :=
  inferInstanceAs (Decidable (_ ∨ _ ∨ _))

theorem toDigit_isSome_mono {small large : ℕ} (hle : small ≤ large) {char : Char}
    (hdigit : (toDigit small char).isSome) : (toDigit large char).isSome := by
  simp only [toDigit, Option.isSome_filter] at hdigit ⊢
  cases hvalue : digitValue char with
  | none => simp [hvalue] at hdigit
  | some value =>
      simp only [hvalue, Option.any_some, decide_eq_true_eq] at hdigit ⊢
      omega

theorem takeDigits_split (radix : ℕ) (input : List Char) :
    ∃ taken, input = taken ++ (takeDigits radix input).2 ∧
      ∀ char ∈ taken, (toDigit radix char).isSome := by
  induction input with
  | nil => exact ⟨[], rfl, by simp⟩
  | cons char tail ih =>
      cases hdigit : toDigit radix char with
      | none => exact ⟨[], by simp [takeDigits, hdigit], by simp⟩
      | some digit =>
          obtain ⟨taken, hsplit, htaken⟩ := ih
          refine ⟨char :: taken, ?_, ?_⟩
          · simp only [takeDigits, hdigit, List.cons_append, ← hsplit]
          · intro other hother
            rcases List.mem_cons.mp hother with rfl | hmem
            · simp [hdigit]
            · exact htaken other hmem

theorem readNumber_eq_some {radix maxDigits bound value : ℕ} {allowZeroPrefix : Bool}
    {input rest : List Char}
    (hread : readNumber radix maxDigits allowZeroPrefix bound input =
      some (value, rest)) :
    rest = (takeDigits radix input).2 := by
  simp only [readNumber] at hread
  split_ifs at hread
  exact (Prod.mk.inj (Option.some.inj hread)).2.symm

theorem consumes_readNumber {radix : ℕ} (hradix : radix ≤ 16) (maxDigits : ℕ)
    (allowZeroPrefix : Bool) (bound : ℕ) :
    Consumes IsAddressChar (readNumber radix maxDigits allowZeroPrefix bound) := by
  intro input value rest hread
  obtain ⟨taken, hsplit, htaken⟩ := takeDigits_split radix input
  rw [← readNumber_eq_some hread] at hsplit
  exact ⟨taken, hsplit, fun char hchar =>
    Or.inl (toDigit_isSome_mono hradix (htaken char hchar))⟩

theorem consumes_readGivenChar {expected : Char} (hexpected : IsAddressChar expected) :
    Consumes IsAddressChar (readGivenChar expected) := by
  intro input value rest hread
  cases input with
  | nil => simp [readGivenChar] at hread
  | cons char tail =>
      simp only [readGivenChar] at hread
      split_ifs at hread with hchar
      cases hread
      exact ⟨[char], rfl, by simpa [hchar] using hexpected⟩

theorem consumes_readSeparator {A : Type} {separator : Char} {read : Reader A}
    (hseparator : IsAddressChar separator) (index : ℕ)
    (hread : Consumes IsAddressChar read) :
    Consumes IsAddressChar (readSeparator separator index read) := by
  unfold readSeparator
  split_ifs
  · exact consumes_bind (consumes_readGivenChar hseparator) fun _ => hread
  · exact hread

theorem consumes_readOctet (index : ℕ) : Consumes IsAddressChar (readOctet index) :=
  consumes_bind
    (consumes_readSeparator (by decide) index
      (consumes_readNumber (by decide) 3 false 255))
    fun _ => consumes_pure _ _

theorem consumes_readIpv4Addr : Consumes IsAddressChar readIpv4Addr :=
  consumes_bind (consumes_readOctet 0) fun _ =>
    consumes_bind (consumes_readOctet 1) fun _ =>
      consumes_bind (consumes_readOctet 2) fun _ =>
        consumes_bind (consumes_readOctet 3) fun _ => consumes_pure _ _

theorem readGroups_split (limit index : ℕ) (input : List Char) :
    ∃ taken, input = taken ++ (readGroups index limit input).2 ∧
      ∀ char ∈ taken, IsAddressChar char := by
  induction limit generalizing index input with
  | zero => exact ⟨[], rfl, by simp⟩
  | succ limit ih =>
      have hcolon : IsAddressChar ':' := by decide
      rw [readGroups]
      dsimp only
      split
      · next ip rest hembedded =>
          split_ifs at hembedded
          exact consumes_readSeparator hcolon index consumes_readIpv4Addr
            input ip rest hembedded
      · split
        · next group rest hgroup =>
            obtain ⟨taken, hsplit, htaken⟩ :=
              consumes_readSeparator hcolon index
                (consumes_readNumber (by decide) 4 true 65535) input group rest hgroup
            obtain ⟨taken', hsplit', htaken'⟩ := ih (index + 1) rest
            refine ⟨taken ++ taken', ?_, ?_⟩
            · rw [List.append_assoc, ← hsplit', hsplit]
            · intro char hchar
              rcases List.mem_append.mp hchar with hmem | hmem
              · exact htaken char hmem
              · exact htaken' char hmem
        · exact ⟨[], rfl, by simp⟩

theorem consumes_readIpv6Addr : Consumes IsAddressChar readIpv6Addr := by
  intro input value rest hread
  obtain ⟨taken, hsplit, htaken⟩ := readGroups_split 8 0 input
  simp only [readIpv6Addr] at hread
  split_ifs at hread with hfull hembedded
  · obtain ⟨ip, -, heq⟩ := Option.map_eq_some_iff.mp hread
    cases heq
    exact ⟨taken, hsplit, htaken⟩
  · split at hread
    · cases hread
    · next gap afterGap hgap =>
        have hcolon : IsAddressChar ':' := by decide
        obtain ⟨middle, hmiddle, hmiddleTaken⟩ :=
          consumes_bind (consumes_readGivenChar hcolon)
            (fun _ => consumes_readGivenChar hcolon) _ gap afterGap hgap
        obtain ⟨back, hback, hbackTaken⟩ := readGroups_split
          (8 - ((readGroups 0 8 input).1.1.length + 1)) 0 afterGap
        obtain ⟨ip, -, heq⟩ := Option.map_eq_some_iff.mp hread
        cases heq
        refine ⟨taken ++ (middle ++ back), ?_, ?_⟩
        · rw [List.append_assoc, List.append_assoc, ← hback, ← hmiddle, ← hsplit]
        · intro char hchar
          simp only [List.mem_append] at hchar
          rcases hchar with hmem | hmem | hmem
          · exact htaken char hmem
          · exact hmiddleTaken char hmem
          · exact hbackTaken char hmem

/-- Text with a character outside the alphabet of addresses is not an address. -/
theorem parseIpAddr_eq_none_of_foreign {text : String} {char : Char}
    (hmem : char ∈ text.toList) (hforeign : ¬ IsAddressChar char) :
    parseIpAddr text = none := by
  have hv4 := consumes_readIpv4Addr.not_whole hmem hforeign
  have hv6 := consumes_readIpv6Addr.not_whole hmem hforeign
  unfold parseIpAddr
  cases hread4 : readIpv4Addr text.toList with
  | some result =>
      obtain ⟨ip, rest⟩ := result
      cases rest with
      | nil => exact absurd hread4 (hv4 ip)
      | cons next tail => rfl
  | none =>
      cases hread6 : readIpv6Addr text.toList with
      | none => rfl
      | some result =>
          obtain ⟨ip, rest⟩ := result
          cases rest with
          | nil => exact absurd hread6 (hv6 ip)
          | cons next tail => rfl

/-! ## Rendering -/

/-- The run of zero segments a rendering leaves out: the first longest one, as
its start and length. -/
def longestZeroSequence (segments : List UInt16) : ℕ × ℕ :=
  (List.range segments.length).foldl
    (fun best start =>
      let length := ((segments.drop start).takeWhile (· == 0)).length
      if best.2 < length then (start, length) else best)
    (0, 0)

def groupsText (segments : List UInt16) : List Char :=
  List.intercalate [':'] (segments.map fun segment => Nat.toDigits 16 segment.toNat)

def Ipv6Addr.toText (ip : Ipv6Addr) : List Char :=
  let segments := [ip.s0, ip.s1, ip.s2, ip.s3, ip.s4, ip.s5, ip.s6, ip.s7]
  let (start, length) := longestZeroSequence segments
  if length < 2 then groupsText segments
  else groupsText (segments.take start) ++ [':', ':'] ++
    groupsText (segments.drop (start + length))

def octetText (octet : UInt8) : List Char := Nat.toDigits 10 octet.toNat

def Ipv4Addr.toText (ip : Ipv4Addr) : List Char :=
  octetText ip.a ++ '.' :: (octetText ip.b ++ '.' :: (octetText ip.c ++ '.' ::
    octetText ip.d))

theorem takeDigits_append {radix : ℕ} {front rest : List Char} {digits : List ℕ}
    (hfront : takeDigits radix front = (digits, []))
    (hrest : ∀ char ∈ rest.head?, toDigit radix char = none) :
    takeDigits radix (front ++ rest) = (digits, rest) := by
  induction front generalizing digits with
  | nil =>
      cases hfront
      cases rest with
      | nil => rfl
      | cons char tail => simp [takeDigits, hrest char rfl]
  | cons char tail ih =>
      cases hdigit : toDigit radix char with
      | none => simp [takeDigits, hdigit] at hfront
      | some digit =>
          simp only [takeDigits, hdigit, Prod.mk.injEq] at hfront
          obtain ⟨hdigits, htail⟩ := hfront
          have hih := ih (Prod.ext rfl htail)
          simp only [List.cons_append, takeDigits, hdigit, hih, hdigits]

/-- A number followed by a character that is no digit is read as it is alone. -/
theorem readNumber_append {radix maxDigits bound value : ℕ} {allowZeroPrefix : Bool}
    {front rest : List Char}
    (hfront : readNumber radix maxDigits allowZeroPrefix bound front =
      some (value, []))
    (hrest : ∀ char ∈ rest.head?, toDigit radix char = none) :
    readNumber radix maxDigits allowZeroPrefix bound (front ++ rest) =
      some (value, rest) := by
  have hdigits : takeDigits radix front = ((takeDigits radix front).1, []) :=
    Prod.ext rfl (readNumber_eq_some hfront).symm
  have happend := takeDigits_append hdigits hrest
  simp only [readNumber] at hfront ⊢
  rw [happend]
  dsimp only
  split_ifs at hfront ⊢
  rw [(Prod.mk.inj (Option.some.inj hfront)).1]

theorem readNumber_octetText (octet : UInt8) :
    readNumber 10 3 false 255 (octetText octet) = some (octet.toNat, []) := by
  have hall : ∀ value : Fin 256,
      readNumber 10 3 false 255 (Nat.toDigits 10 value) = some (value.val, []) := by
    decide +kernel
  exact hall ⟨octet.toNat, octet.toNat_lt⟩

theorem readOctet_zero_append (octet : UInt8) {rest : List Char}
    (hrest : ∀ char ∈ rest.head?, toDigit 10 char = none) :
    readOctet 0 (octetText octet ++ rest) = some (octet, rest) := by
  have hread := readNumber_append (readNumber_octetText octet) hrest
  simp [readOctet, readSeparator, Bind.bind, Pure.pure, hread]

theorem readOctet_succ_append (index : ℕ) (octet : UInt8) {rest : List Char}
    (hrest : ∀ char ∈ rest.head?, toDigit 10 char = none) :
    readOctet (index + 1) ('.' :: (octetText octet ++ rest)) =
      some (octet, rest) := by
  have hread := readNumber_append (readNumber_octetText octet) hrest
  simp [readOctet, readSeparator, readGivenChar, Bind.bind, Pure.pure, hread]

theorem readIpv4Addr_toText (ip : Ipv4Addr) :
    readIpv4Addr ip.toText = some (ip, []) := by
  have hdot : ∀ tail : List Char, ∀ char ∈ ('.' :: tail).head?,
      toDigit 10 char = none := by
    intro tail char hchar
    cases hchar
    decide
  have ha := readOctet_zero_append ip.a (hdot (octetText ip.b ++ '.' ::
    (octetText ip.c ++ '.' :: octetText ip.d)))
  have hb := readOctet_succ_append 0 ip.b (hdot (octetText ip.c ++ '.' :: octetText ip.d))
  have hc := readOctet_succ_append 1 ip.c (hdot (octetText ip.d))
  have hd : readOctet 3 ('.' :: (octetText ip.d ++ [])) = some (ip.d, []) :=
    readOctet_succ_append 2 ip.d (by simp)
  rw [List.append_nil] at hd
  simp only [zero_add, Nat.reduceAdd] at hb hc
  simp [readIpv4Addr, Ipv4Addr.toText, Bind.bind, Pure.pure, ha, hb, hc, hd]

theorem parseIpAddr_toText (ip : Ipv4Addr) :
    parseIpAddr (String.ofList ip.toText) = some (.v4 ip) := by
  simp [parseIpAddr, readIpv4Addr_toText]

end Relayer.Address
