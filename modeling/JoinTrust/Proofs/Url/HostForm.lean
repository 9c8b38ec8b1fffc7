import JoinTrust.Proofs.Url.AddressForm
import JoinTrust.Proofs.Url.DomainForm

set_option autoImplicit false

/-!
Written hosts. A host is read back from its text under the scheme that it was read under. Its text has none of the
marks that end a host, and a colon only in brackets.
-/

namespace JoinTrust.Host

variable {input : List Char} {host : Host} {character : Char}

/-!
## Shapes
-/

/-- A character that may stand in a host outside brackets. -/
def Clear (character : Char) : Prop :=
  0x20 < character.toNat ∧ isForbidden character = false

/-- What may stand in brackets. -/
def Bracketed (character : Char) : Prop :=
  character = ':' ∨ (Text.Hex.value? character).isSome = true

/-- The text of a host: clear characters, or an address in brackets. -/
inductive Shape : List Char → Prop where
  | clear {text : List Char} : (∀ character ∈ text, Clear character) → Shape text
  | bracketed {inner : List Char} : (∀ character ∈ inner, Bracketed character) → Shape ('[' :: inner ++ [']'])

theorem ascii_of_hex (hex : (Text.Hex.value? character).isSome = true) : character.toNat < 0x80 := by
  have same : character.toNat = character.val.toNat := rfl
  unfold Text.Hex.value? at hex
  simp only [Char.le_def, UInt32.le_iff_toNat_le, Char.reduceVal, UInt32.reduceToNat] at hex
  split at hex
  · omega
  · split at hex
    · omega
    · split at hex
      · omega
      · cases hex

theorem bracketed_spec (bracketed : Bracketed character) :
    0x20 < character.toNat ∧ character ∉ ['#', '/', '?', '@', '[', '\\', ']'] := by
  have ascii : character.toNat < 0x80 := by
    rcases bracketed with rfl | hex
    · decide
    · exact ascii_of_hex hex
  have checked := Text.of_ascii
    (fun character => !(character == ':' || (Text.Hex.value? character).isSome) ||
      (decide (0x20 < character.toNat) && decide (character ∉ ['#', '/', '?', '@', '[', '\\', ']'])))
    (by decide +kernel) ascii
  have within : (character == ':' || (Text.Hex.value? character).isSome) = true := by
    simpa [Bracketed] using bracketed
  rw [within] at checked
  simpa only [Bool.not_true, Bool.false_or, Bool.and_eq_true, decide_eq_true_eq] using checked

/-- The marks that end a host do not stand in one. -/
theorem Shape.notMem {text : List Char} (shape : Shape text) {mark : Char} (ends : mark ∈ ['#', '/', '?', '@', '\\']) :
    mark ∉ text := by
  have marks : ∀ mark ∈ ['#', '/', '?', '@', '\\'], isForbidden mark = true ∧ mark ≠ '[' ∧ mark ≠ ']' ∧
      mark ∈ ['#', '/', '?', '@', '[', '\\', ']'] :=
    Text.forall_mem_of_all (by decide)
  obtain ⟨forbidden, notOpening, notClosing, listed⟩ := marks mark ends
  intro member
  cases shape with
  | clear clear => exact absurd forbidden (by simp [(clear mark member).2])
  | bracketed bracketed =>
      rcases List.mem_append.mp member with front | closing
      · rcases List.mem_cons.mp front with opening | inside
        · exact notOpening opening
        · exact (bracketed_spec (bracketed mark inside)).2 listed
      · exact notClosing (List.mem_singleton.mp closing)

theorem Shape.visible {text : List Char} (shape : Shape text) : Url.Visible text := by
  intro character member
  cases shape with
  | clear clear => exact (clear character member).1
  | bracketed bracketed =>
      rcases List.mem_append.mp member with front | closing
      · rcases List.mem_cons.mp front with rfl | inside
        · decide
        · exact (bracketed_spec (bracketed character inside)).1
      · rw [List.mem_singleton.mp closing]
        decide

/-- A port is cut off behind the text of a host. -/
theorem Shape.cutPort_append {text : List Char} (shape : Shape text) (rest : List Char) :
    Url.cutPort false (text ++ rest) = (text ++ (Url.cutPort false rest).1, (Url.cutPort false rest).2) := by
  cases shape with
  | clear clear =>
      have marks : ∀ mark ∈ [':', '[', ']'], isForbidden mark = true := Text.forall_mem_of_all (by decide)
      refine Url.cutPort_append (fun character member mark => ?_) rest
      have forbidden := marks character mark
      rw [(clear character member).2] at forbidden
      cases forbidden
  | @bracketed inner bracketed =>
      have unbracketed : ∀ character ∈ inner, character ∉ ['[', ']'] := by
        intro character member mark
        refine (bracketed_spec (bracketed character member)).2 ?_
        simp only [List.mem_cons, List.not_mem_nil, or_false] at mark ⊢
        rcases mark with rfl | rfl
        · simp
        · simp
      have inside := Url.cutPort_within unbracketed (']' :: rest)
      simp [Url.cutPort, inside]

/-!
## Addresses in brackets
-/

theorem bracketed?_spec (read : bracketed? input = some host) :
    ∃ pieces, host = .ipv6 pieces ∧ Url.Ipv6.Address pieces := by
  unfold bracketed? at read
  split at read
  · obtain ⟨pieces, parsed, rfl⟩ := Option.map_eq_some_iff.mp read
    exact ⟨pieces, rfl, Url.Ipv6.parse?_address parsed⟩
  · cases read

theorem bracketed?_text {pieces : List Nat} (address : Url.Ipv6.Address pieces) :
    bracketed? (Host.ipv6 pieces).text = some (.ipv6 pieces) := by
  have last : (Host.ipv6 pieces).text.getLast? = some ']' := List.getLast?_concat
  have inner : ((Host.ipv6 pieces).text.drop 1).dropLast = Url.Ipv6.text pieces := by simp [text]
  rw [bracketed?, last]
  simp only [inner, Url.Ipv6.parse?_text address]
  rfl

theorem shape_ipv6 (pieces : List Nat) : Shape (Host.ipv6 pieces).text :=
  .bracketed fun _ member => Url.Ipv6.mem_text member

/-!
## Names
-/

/-- The host that a name is under a special scheme. -/
def readName? (name : List Char) : Option Host :=
  if name.isEmpty ∨ name.any isForbiddenInDomain then none
  else if Url.Ipv4.endsInNumber name then (Url.Ipv4.parse? name).map .ipv4
  else some (.domain name)

theorem special?_eq (unbracketed : input.head? ≠ some '[') :
    special? input = (Url.Domain.ascii? (Text.Utf8.decodeChars (Url.percentDecode input))).bind readName? := by
  rw [special?]
  · rfl
  · rintro rest rfl
    exact unbracketed rfl

/-- A name in ASCII form is read as it is. -/
theorem special?_of_ascii? {name : List Char} (stable : Url.Domain.ascii? name = some name) (unbracketed : '[' ∉ name)
    (unencoded : '%' ∉ name) : special? name = readName? name := by
  rw [special?_eq fun opening => unbracketed (List.mem_of_mem_head? opening), Url.percentDecode_of_notMem unencoded,
    Text.Utf8.decodeChars_encodeChars, stable]
  rfl

theorem clear_of_not_isForbidden (allowed : isForbidden character = false) (least : 0x20 ≤ character.toNat) :
    Clear character := by
  refine ⟨Nat.lt_of_le_of_ne least fun same => ?_, allowed⟩
  have blank : character = ' ' := Char.toNat_inj.mp same.symm
  rw [blank] at allowed
  exact absurd allowed (by decide)

/-- What a name holds when none of its characters is forbidden in a domain. -/
theorem clear_of_domain {name : List Char} (allowed : name.any isForbiddenInDomain = false) :
    (∀ character ∈ name, Clear character) ∧ '[' ∉ name ∧ '%' ∉ name := by
  have each : ∀ character ∈ name, isForbiddenInDomain character = false := by simpa using allowed
  refine ⟨fun character member => ?_, fun member => ?_, fun member => ?_⟩
  · have spared := each character member
    simp only [isForbiddenInDomain, Bool.or_eq_false_iff, decide_eq_false_iff_not] at spared
    exact clear_of_not_isForbidden spared.1.1.1 (by omega)
  · exact absurd (each _ member) (by decide)
  · exact absurd (each _ member) (by decide)

/-- The characters of an address of four octets. -/
theorem octet_spec (octet : character = '.' ∨ character.isDigit = true) :
    Url.Domain.Plain character ∧ character ≠ 'x' ∧ isForbiddenInDomain character = false := by
  have ascii : character.toNat < 0x80 := by
    rcases octet with rfl | digit
    · decide
    · exact Text.ascii_of_isAlphanum (by simp [Char.isAlphanum, digit])
  have checked := Text.of_ascii
    (fun character => !(character == '.' || character.isDigit) ||
      (decide (Url.Domain.Plain character) && character != 'x' && !isForbiddenInDomain character))
    (by decide +kernel) ascii
  have within : (character == '.' || character.isDigit) = true := by simpa using octet
  rw [within] at checked
  simp only [Bool.not_true, Bool.false_or, Bool.and_eq_true, decide_eq_true_eq, bne_iff_ne, Bool.not_eq_true'] at checked
  exact ⟨checked.1.1, checked.1.2, checked.2⟩

theorem labelAscii?_octetChars (octet : Nat) :
    Url.Domain.labelAscii? (Url.Ipv4.octetChars octet) = some (Url.Ipv4.octetChars octet) := by
  have digits (character : Char) (member : character ∈ Url.Ipv4.octetChars octet) :=
    octet_spec (.inr (Url.Ipv4.isDigit_octetChars member))
  have plain : ∀ character ∈ Url.Ipv4.octetChars octet, Url.Domain.Plain character :=
    fun character member => (digits character member).1
  have unmarked : Url.Domain.marker.isPrefixOf (Url.Ipv4.octetChars octet) = false := by
    refine Bool.eq_false_iff.mpr fun marked => ?_
    have member : 'x' ∈ Url.Ipv4.octetChars octet :=
      (List.isPrefixOf_iff_prefix.mp marked).subset (by decide)
    exact (digits 'x' member).2.1 rfl
  rw [Url.Domain.labelAscii?, if_pos (Url.Domain.all_isAscii plain), if_neg (by simp [Url.Domain.all_isNormal plain]),
    if_neg (by simp [unmarked])]

theorem ascii?_ipv4 (address : Nat) : Url.Domain.ascii? (Url.Ipv4.text address) = some (Url.Ipv4.text address) := by
  have plain : ∀ character ∈ Url.Ipv4.text address, Url.Domain.Plain character :=
    fun character member => (octet_spec (Url.Ipv4.mem_text member)).1
  have labels : ((Url.Ipv4.octets address).map Url.Ipv4.octetChars).mapM Url.Domain.labelAscii? =
      some ((Url.Ipv4.octets address).map Url.Ipv4.octetChars) := by
    refine Text.mapM_eq_some_iff.mpr (List.map_congr_left fun label member => ?_)
    obtain ⟨octet, _, rfl⟩ := List.mem_map.mp member
    exact labelAscii?_octetChars octet
  rw [Url.Domain.ascii?, Url.Domain.normalize?_of_plain plain]
  simp only [Option.bind_eq_bind, Option.bind_some, Url.Ipv4.splitAt_text, labels]
  rw [Url.Ipv4.text_eq]

theorem allowed_ipv4 (address : Nat) : (Host.ipv4 address).text.any isForbiddenInDomain = false := by
  refine List.any_eq_false.mpr fun character member => ?_
  simp [(octet_spec (Url.Ipv4.mem_text member)).2.2]

theorem special?_ipv4 {address : Nat} (bound : address < Nat.pow 256 4) :
    special? (Host.ipv4 address).text = some (.ipv4 address) := by
  have allowed := allowed_ipv4 address
  obtain ⟨_, unbracketed, unencoded⟩ := clear_of_domain allowed
  have filled : (Url.Ipv4.text address).isEmpty = false := by simp [Url.Ipv4.text]
  rw [text] at allowed unbracketed unencoded ⊢
  rw [special?_of_ascii? (ascii?_ipv4 address) unbracketed unencoded, readName?, if_neg (by simp [filled, allowed]),
    if_pos (Url.Ipv4.endsInNumber_text address), Url.Ipv4.parse?_text bound]
  rfl

/-!
## Hosts
-/

/-- A host that is read under a special scheme is read back from its text. -/
theorem special?_stable (read : special? input = some host) : special? host.text = some host ∧ Shape host.text := by
  by_cases opening : input.head? = some '['
  · obtain ⟨rest, rfl⟩ : ∃ rest, input = '[' :: rest := by
      cases input with
      | nil => cases opening
      | cons character rest => exact ⟨rest, by simpa using opening⟩
    obtain ⟨pieces, rfl, address⟩ := bracketed?_spec read
    exact ⟨bracketed?_text address, shape_ipv6 pieces⟩
  · rw [special?_eq opening] at read
    obtain ⟨name, written, read⟩ := Option.bind_eq_some_iff.mp read
    have stable := Url.Domain.ascii?_stable written
    -- A name is kept with its reading, which is the same again; a number is written anew as four octets.
    have again := read
    unfold readName? at read
    split at read
    · cases read
    · next allowed =>
        have spared : name.any isForbiddenInDomain = false := by
          simp only [not_or, Bool.not_eq_true] at allowed
          exact allowed.2
        obtain ⟨clear, unbracketed, unencoded⟩ := clear_of_domain spared
        split at read
        · obtain ⟨address, parsed, rfl⟩ := Option.map_eq_some_iff.mp read
          exact ⟨special?_ipv4 (Url.Ipv4.parse?_lt parsed), .clear (clear_of_domain (allowed_ipv4 address)).1⟩
        · obtain rfl := Option.some.inj read
          exact ⟨(special?_of_ascii? stable unbracketed unencoded).trans again, .clear clear⟩

/-- The characters of a host that is kept as it is. -/
theorem clear_plain (allowed : input.any isForbidden = false) :
    ∀ character ∈ Url.percentEncode Url.inControlSet input, Clear character := by
  intro character member
  have encoded := Url.encoded_percentEncode Url.spares_controlSet input character member
  have least : 0x20 ≤ character.toNat := by
    simp only [Url.inControlSet, Bool.or_eq_false_iff, decide_eq_false_iff_not] at encoded
    omega
  refine clear_of_not_isForbidden ?_ least
  by_cases written : character ∈ Url.percentAlphabet
  · have spared : ∀ character ∈ Url.percentAlphabet, isForbidden character = false :=
      Text.forall_mem_of_all (by decide)
    exact spared character written
  · have own := Url.mem_of_mem_percentEncode member written
    simpa using List.any_eq_false.mp allowed character own

theorem other?_of_clear {name : List Char} (filled : name ≠ []) (clear : ∀ character ∈ name, Clear character)
    (encoded : Url.Encoded Url.inControlSet name) : other? name = some (.plain name) := by
  have allowed : name.any isForbidden = false := by
    simpa using fun character member => (clear character member).2
  have unbracketed : '[' ∉ name := fun member => absurd (clear '[' member).2 (by decide)
  rw [other?]
  · simp [allowed, encoded.percentEncode_eq]
  · exact filled
  · rintro rest rfl
    exact unbracketed List.mem_cons_self

/-- A host that is read under any other scheme is read back from its text. -/
theorem other?_stable (read : other? input = some host) : other? host.text = some host ∧ Shape host.text := by
  unfold other? at read
  split at read
  · obtain rfl := Option.some.inj read
    exact ⟨rfl, .clear fun character member => by cases member⟩
  · obtain ⟨pieces, rfl, address⟩ := bracketed?_spec read
    exact ⟨bracketed?_text address, shape_ipv6 pieces⟩
  · next filled unbracketed =>
      split at read
      · cases read
      · next allowed =>
          obtain rfl := Option.some.inj read
          have clear := clear_plain (by simpa using allowed)
          exact ⟨other?_of_clear (Url.percentEncode_ne_nil filled) clear
            (Url.encoded_percentEncode Url.spares_controlSet input), .clear clear⟩

end JoinTrust.Host
