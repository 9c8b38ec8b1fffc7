import JoinTrust.Proofs.Url.HostForm
import JoinTrust.Proofs.Url.PathForm

set_option autoImplicit false

/-!
Written URLs. A URL with a host is read back from its text, component by component: the marks between components are
encoded within them, or do not occur there, and every component is read as it is written.
-/

namespace JoinTrust.Url

variable {url : Url} {host : Host} {scheme text rest : List Char} {segments : List (List Char)} {character : Char}

/-!
## Schemes
-/

/-- A scheme as URLs hold it: a letter and what may follow it, in lower case. -/
structure WrittenScheme (scheme : List Char) : Prop where
  led : ∃ first rest, scheme = first :: rest ∧ first.isAlpha = true
  each : ∀ character ∈ scheme, isSchemeChar character = true ∧ character.toLower = character

theorem ascii_of_isSchemeChar (within : isSchemeChar character = true) : character.toNat < 0x80 := by
  simp only [isSchemeChar, Bool.or_eq_true, beq_iff_eq] at within
  rcases within with ((alphanumeric | rfl) | rfl) | rfl
  · exact Text.ascii_of_isAlphanum alphanumeric
  · decide
  · decide
  · decide

/-- A character of a scheme in lower case. -/
theorem isSchemeChar_toLower (within : isSchemeChar character = true) :
    isSchemeChar character.toLower = true ∧ character.toLower.toLower = character.toLower ∧
      (character.isAlpha = true → character.toLower.isAlpha = true) ∧ 0x20 < character.toNat := by
  have checked := Text.of_ascii
    (fun character => !isSchemeChar character || (isSchemeChar character.toLower &&
      character.toLower.toLower == character.toLower && (!character.isAlpha || character.toLower.isAlpha) &&
        decide (0x20 < character.toNat)))
    (by decide +kernel) (ascii_of_isSchemeChar within)
  rw [within] at checked
  simp only [Bool.not_true, Bool.false_or, Bool.and_eq_true, Bool.or_eq_true, beq_iff_eq, decide_eq_true_eq,
    Bool.not_eq_true'] at checked
  obtain ⟨⟨⟨lowered, again⟩, alpha⟩, visible⟩ := checked
  refine ⟨lowered, again, fun letter => ?_, visible⟩
  rw [letter] at alpha
  simpa using alpha

theorem writtenScheme_of_readScheme? (read : readScheme? text = some (scheme, rest)) : WrittenScheme scheme := by
  unfold readScheme? at read
  split at read
  · next first others =>
      split at read
      · next alpha =>
          split at read
          · obtain rfl := (Prod.mk.inj (Option.some.inj read)).1
            have within : isSchemeChar first = true := by simp [isSchemeChar, Char.isAlphanum, alpha]
            obtain ⟨_, _, letter, _⟩ := isSchemeChar_toLower within
            refine ⟨⟨first.toLower, (others.takeWhile isSchemeChar).map Char.toLower, ?_, letter alpha⟩, ?_⟩
            · rw [List.takeWhile_cons_of_pos within, List.map_cons]
            · intro character member
              obtain ⟨source, among, rfl⟩ := List.mem_map.mp member
              obtain ⟨lowered, again, _⟩ :=
                isSchemeChar_toLower (List.all_eq_true.mp List.all_takeWhile source among)
              exact ⟨lowered, again⟩
          · cases read
      · cases read
  · cases read

/-- A scheme is read up to the colon behind it. -/
theorem WrittenScheme.readScheme? (written : WrittenScheme scheme) (rest : List Char) :
    Url.readScheme? (scheme ++ ':' :: rest) = some (scheme, rest) := by
  obtain ⟨first, others, rfl, alpha⟩ := written.led
  have within : ∀ character ∈ first :: others, isSchemeChar character = true :=
    fun character member => (written.each character member).1
  have lowered : (first :: others).map Char.toLower = first :: others :=
    (List.map_congr_left fun character member => (written.each character member).2).trans (List.map_id _)
  have colon : isSchemeChar ':' = false := by decide
  rw [List.cons_append, Url.readScheme?, if_pos alpha, ← List.cons_append, List.takeWhile_append_of_pos within,
    List.dropWhile_append_of_pos within]
  simp [colon, -List.map_cons, lowered]

/-!
## Ports
-/

/-- A port as URLs hold it: in range, and not the one that goes without saying. -/
def WrittenPort (scheme : List Char) (port : Option Nat) : Prop :=
  ∀ number ∈ port, number ≤ 65535 ∧ defaultPort? scheme ≠ some number

def portDigits : Option Nat → List Char
  | none => []
  | some number => (toString number).toList

theorem writtenPort_of_readPort? {digits : List Char} {port : Option Nat} (read : readPort? scheme digits = some port) :
    WrittenPort scheme port := by
  intro number given
  unfold readPort? at read
  split at read
  · cases Option.some.inj read
    cases given
  · split at read
    · simp only at read
      split at read
      · cases read
      · next small =>
          split at read
          · cases Option.some.inj read
            cases given
          · next unusual =>
              obtain rfl := Option.some.inj read
              obtain rfl := Option.some.inj given
              exact ⟨Nat.le_of_not_lt small, unusual⟩
    · cases read

/-- A port in range is read back, unless it goes without saying. -/
theorem readPort?_portDigits_eq {port : Option Nat} (small : ∀ number ∈ port, number ≤ 65535) :
    readPort? scheme (portDigits port) = some (port.filter fun number => defaultPort? scheme != some number) := by
  cases port with
  | none => rfl
  | some number =>
      have digits : (toString number).toList = Nat.toDigits 10 number := by
        rw [Nat.toString_eq_ofList_toDigits, String.toList_ofList]
      have filled : (Nat.toDigits 10 number).isEmpty = false := by simp [Nat.toDigits_ne_nil]
      have decimal : (Nat.toDigits 10 number).all Char.isDigit = true :=
        List.all_eq_true.mpr fun character member => Nat.isDigit_of_mem_toDigits (by decide) (by decide) member
      have value : (Nat.toDigits 10 number).foldl (fun value digit => value * 10 + (digit.toNat - '0'.toNat)) 0 = number := by
        have spelled := @Nat.ofDigitChars_ten_toDigits number
        simpa only [Nat.ofDigitChars, Nat.mul_comm] using spelled
      rw [portDigits, digits, readPort?, if_neg (by simp [filled]), if_pos decimal]
      simp only [value]
      rw [if_neg (Nat.not_lt_of_le (small number rfl))]
      by_cases usual : defaultPort? scheme = some number
      · simp [Option.filter, usual]
      · simp [Option.filter, usual]

theorem readPort?_portDigits {port : Option Nat} (written : WrittenPort scheme port) :
    readPort? scheme (portDigits port) = some port := by
  rw [readPort?_portDigits_eq fun number given => (written number given).1]
  cases port with
  | none => rfl
  | some number => simp [Option.filter, (written number rfl).2]

/-!
## Hosts under a scheme
-/

/-- The host that a text is under a scheme. -/
def readHost? (scheme name : List Char) : Option Host :=
  if isSpecialScheme scheme then Host.special? name else Host.other? name

/-- A host as URLs hold it: it has a text, which it is read back from. -/
structure WrittenHost (scheme : List Char) (host : Host) : Prop where
  named : host.text ≠ []
  shape : Host.Shape host.text
  read : readHost? scheme host.text = some host

theorem writtenHost_of_readHost? {name : List Char} (read : readHost? scheme name = some host)
    (named : host.text ≠ []) : WrittenHost scheme host := by
  unfold readHost? at read
  split at read
  · next special =>
      obtain ⟨again, shape⟩ := Host.special?_stable read
      exact ⟨named, shape, by rw [readHost?, if_pos special]; exact again⟩
  · next other =>
      obtain ⟨again, shape⟩ := Host.other?_stable read
      exact ⟨named, shape, by rw [readHost?, if_neg other]; exact again⟩

def portText (port : Option Nat) : Option (List Char) :=
  port.map fun number => (toString number).toList

theorem hostChars_eq (held : url.host = some host) : url.hostChars = host.text ++ marked ':' (portText url.port) := by
  cases given : url.port with
  | none => simp [hostChars, held, given, marked, portText]
  | some number => simp [hostChars, held, given, marked, portText]

theorem getD_portText (port : Option Nat) : (portText port).getD [] = portDigits port := by
  cases port with
  | none => rfl
  | some number => rfl

theorem readHostPort?_eq (scheme text : List Char) :
    readHostPort? scheme text =
      if (cutPort false text).1.isEmpty ∧ ((cutPort false text).2.isSome ∨ isSpecialScheme scheme) then none
      else (readHost? scheme (cutPort false text).1).bind fun host =>
        (readPort? scheme ((cutPort false text).2.getD [])).bind fun port => some (host, port) := by
  rw [readHostPort?, readHost?]
  simp only [Option.bind_eq_bind]
  cases isSpecialScheme scheme with
  | false => rfl
  | true => rfl

/-- A host is cut off from its port. -/
theorem WrittenHost.cutPort (written : WrittenHost scheme host) (port : Option Nat) :
    Url.cutPort false (host.text ++ marked ':' (portText port)) = (host.text, portText port) := by
  rw [written.shape.cutPort_append]
  cases port with
  | none => simp [marked, Url.cutPort, portText]
  | some number => simp [marked, Url.cutPort, portText]

/-- A host and its port, read under a scheme that need not be their own. -/
theorem WrittenHost.readHostPort?_eq (written : WrittenHost scheme host) (other : List Char) (port : Option Nat) :
    readHostPort? other (host.text ++ marked ':' (portText port)) =
      (readHost? other host.text).bind fun host =>
        (readPort? other (portDigits port)).bind fun port => some (host, port) := by
  have named : host.text.isEmpty = false := by simp [written.named]
  rw [Url.readHostPort?_eq, written.cutPort, if_neg (by simp [named]), getD_portText]

/-- A host and its port are read back from their text. -/
theorem readHostPort?_hostChars {port : Option Nat} (written : WrittenHost scheme host)
    (held : WrittenPort scheme port) :
    readHostPort? scheme (host.text ++ marked ':' (portText port)) = some (host, port) := by
  rw [written.readHostPort?_eq, written.read, Option.bind_some, readPort?_portDigits held]
  rfl

/-- Only the empty text is read as a host without a text, and not under a special scheme. -/
theorem readHost?_of_text_eq_nil {name : List Char} (read : readHost? scheme name = some host) (unnamed : host.text = []) :
    name = [] ∧ isSpecialScheme scheme = false := by
  unfold readHost? at read
  split at read
  · have again := (Host.special?_stable read).1
    have nothing : Host.special? [] = none := by decide +kernel
    rw [unnamed, nothing] at again
    cases again
  · next ordinary =>
      refine ⟨?_, by simpa using ordinary⟩
      unfold Host.other? at read
      split at read
      · rfl
      · obtain ⟨pieces, rfl, _⟩ := Host.bracketed?_spec read
        simp [Host.text] at unnamed
      · next filled _ =>
          split at read
          · cases read
          · obtain rfl := Option.some.inj read
            exact absurd unnamed (percentEncode_ne_nil filled)

/-- What is read from a text before a path. A host without a text has no port. -/
theorem readHostPort?_spec {port : Option Nat} (read : readHostPort? scheme text = some (host, port)) :
    WrittenPort scheme port ∧ (host.text ≠ [] → WrittenHost scheme host) ∧ (host.text = [] → port = none) := by
  rw [readHostPort?_eq] at read
  split at read
  · cases read
  · next given =>
      obtain ⟨found, name, read⟩ := Option.bind_eq_some_iff.mp read
      obtain ⟨number, digits, same⟩ := Option.bind_eq_some_iff.mp read
      obtain ⟨rfl, rfl⟩ := Prod.mk.inj (Option.some.inj same)
      refine ⟨writtenPort_of_readPort? digits, writtenHost_of_readHost? name, fun unnamed => ?_⟩
      obtain ⟨empty, ordinary⟩ := readHost?_of_text_eq_nil name unnamed
      simp only [empty, List.isEmpty_nil, true_and, ordinary, Bool.false_eq_true, or_false, Bool.not_eq_true,
        Option.isSome_eq_false_iff, Option.isNone_iff_eq_none] at given
      rw [given] at digits
      exact (Option.some.inj digits).symm

/-!
## Authorities
-/

/-- The parts of a URL between its scheme and its path, in written form. -/
structure WrittenAuthority (url : Url) (host : Host) : Prop where
  username : Encoded inUserinfoSet url.username
  password : Encoded inUserinfoSet url.password
  held : url.host = some host
  hosted : WrittenHost url.scheme host
  port : WrittenPort url.scheme url.port

/-- The characters of a host and its port. -/
theorem mem_hostChars (held : url.host = some host) (member : character ∈ url.hostChars) :
    character ∈ host.text ∨ character = ':' ∨ character.isDigit = true := by
  rw [hostChars_eq held] at member
  rcases List.mem_append.mp member with named | port
  · exact .inl named
  · cases given : url.port with
    | none => simp [given, portText, marked] at port
    | some number =>
        rw [given] at port
        rcases List.mem_cons.mp port with colon | digit
        · exact .inr (.inl colon)
        · simp only [Nat.toString_eq_ofList_toDigits, String.toList_ofList] at digit
          exact .inr (.inr (Nat.isDigit_of_mem_toDigits (by decide) (by decide) digit))

theorem WrittenAuthority.notMem_hostChars (written : WrittenAuthority url host) {mark : Char}
    (ends : mark ∈ ['#', '/', '?', '@', '\\']) : mark ∉ url.hostChars := by
  have apart : ∀ mark ∈ ['#', '/', '?', '@', '\\'], mark ≠ ':' ∧ mark.isDigit = false :=
    Text.forall_mem_of_all (by decide)
  obtain ⟨notColon, notDigit⟩ := apart mark ends
  intro member
  rcases mem_hostChars written.held member with named | colon | digit
  · exact written.hosted.shape.notMem ends named
  · exact notColon colon
  · rw [notDigit] at digit
    cases digit

theorem WrittenAuthority.visible_hostChars (written : WrittenAuthority url host) : Visible url.hostChars := by
  intro character member
  rcases mem_hostChars written.held member with name | rfl | digit
  · exact written.hosted.shape.visible character name
  · decide
  · have least : '0'.toNat ≤ character.toNat := by
      simp only [Char.isDigit, Bool.and_eq_true, decide_eq_true_eq, ge_iff_le, UInt32.le_iff_toNat_le] at digit
      exact digit.1
    exact Nat.lt_of_lt_of_le (by decide) least

theorem WrittenAuthority.hostChars_ne_nil (written : WrittenAuthority url host) : url.hostChars ≠ [] := by
  rw [hostChars_eq written.held]
  exact List.append_ne_nil_of_left_ne_nil written.hosted.named _

/-- The characters before the at sign, if there is one. -/
theorem mem_credentialChars (member : character ∈ url.credentialChars) :
    character ∈ url.username ∨ character ∈ url.password ∨ character = ':' ∨ character = '@' := by
  simp only [credentialChars] at member
  split at member
  · cases member
  · split at member
    · simp only [List.append_nil, List.mem_append, List.mem_singleton] at member
      rcases member with user | sign
      · exact .inl user
      · exact .inr (.inr (.inr sign))
    · simp only [List.mem_append, List.mem_cons, List.not_mem_nil, or_false] at member
      rcases member with (user | colon | secret) | sign
      · exact .inl user
      · exact .inr (.inr (.inl colon))
      · exact .inr (.inl secret)
      · exact .inr (.inr (.inr sign))

theorem WrittenAuthority.notMem_credentialChars (written : WrittenAuthority url host) {mark : Char}
    (ends : mark ∈ ['#', '/', '?', '\\']) : mark ∉ url.credentialChars := by
  have apart : ∀ mark ∈ ['#', '/', '?', '\\'], inUserinfoSet mark = true ∧ mark ≠ ':' ∧ mark ≠ '@' :=
    Text.forall_mem_of_all (by decide)
  obtain ⟨demanded, notColon, notSign⟩ := apart mark ends
  intro member
  rcases mem_credentialChars member with user | secret | colon | sign
  · exact written.username.notMem demanded user
  · exact written.password.notMem demanded secret
  · exact notColon colon
  · exact notSign sign

/-- The credentials are cut off at the last at sign, and the password at the first colon. -/
theorem WrittenAuthority.cutCredentials (written : WrittenAuthority url host) :
    (cutAtLast '@' (url.credentialChars ++ url.hostChars)).2 = url.hostChars ∧
      ((cutAt ':' ((cutAtLast '@' (url.credentialChars ++ url.hostChars)).1.getD [])).1 = url.username ∧
        (cutAt ':' ((cutAtLast '@' (url.credentialChars ++ url.hostChars)).1.getD [])).2.getD [] = url.password) := by
  have unsigned : '@' ∉ url.hostChars := written.notMem_hostChars (by decide)
  have uncolored : ':' ∉ url.username := written.username.notMem (by decide)
  by_cases anonymous : url.username.isEmpty ∧ url.password.isEmpty
  · have nothing : url.credentialChars = [] := by simp only [credentialChars, if_pos anonymous]
    simp only [List.isEmpty_iff] at anonymous
    rw [nothing, List.nil_append, cutAtLast_of_notMem unsigned]
    simp [cutAt, anonymous.1, anonymous.2]
  · have spelled : url.credentialChars = url.username ++ marked ':' (if url.password.isEmpty then none else some url.password) ++ ['@'] := by
      simp only [credentialChars, if_neg anonymous]
      cases url.password.isEmpty with
      | false => rfl
      | true => rfl
    rw [spelled, List.append_assoc _ ['@'], List.singleton_append, cutAtLast_append_cons _ unsigned]
    rw [Option.getD_some, cutAt_marked uncolored]
    refine ⟨rfl, rfl, ?_⟩
    cases given : url.password with
    | nil => rfl
    | cons character rest => rfl

theorem readAuthority?_eq (scheme text : List Char) :
    Url.readAuthority? scheme text =
      if (cutAtLast '@' text).1.isSome ∧ (cutAtLast '@' text).2.isEmpty then none
      else (readHostPort? scheme (cutAtLast '@' text).2).bind fun found =>
        some
          { scheme
            username := percentEncode inUserinfoSet (cutAt ':' ((cutAtLast '@' text).1.getD [])).1
            password := percentEncode inUserinfoSet ((cutAt ':' ((cutAtLast '@' text).1.getD [])).2.getD [])
            host := some found.1
            port := found.2 } :=
  rfl

/-- What stands between the scheme and the path is read back. -/
theorem WrittenAuthority.readAuthority? (written : WrittenAuthority url host) :
    Url.readAuthority? url.scheme (url.credentialChars ++ url.hostChars) =
      some { url with path := .segments [], query := none, fragment := none } := by
  obtain ⟨rest, username, password⟩ := written.cutCredentials
  have named : url.hostChars.isEmpty = false := by simp [written.hostChars_ne_nil]
  have read := readHostPort?_hostChars written.hosted written.port
  rw [← hostChars_eq written.held] at read
  rw [readAuthority?_eq, rest, if_neg (by simp [named]), read, username, password, Option.bind_some,
    written.username.percentEncode_eq, written.password.percentEncode_eq, ← written.held]

theorem writtenAuthority_of_readAuthority? (read : Url.readAuthority? scheme text = some url)
    (named : url.hostChars ≠ []) : url.scheme = scheme ∧ ∃ host, WrittenAuthority url host := by
  rw [readAuthority?_eq] at read
  split at read
  · cases read
  · obtain ⟨⟨host, port⟩, found, read⟩ := Option.bind_eq_some_iff.mp read
    obtain rfl := Option.some.inj read
    obtain ⟨held, written, unnamed⟩ := readHostPort?_spec found
    refine ⟨rfl, host, encoded_percentEncode spares_userinfoSet _, encoded_percentEncode spares_userinfoSet _, rfl,
      written fun empty => named ?_, held⟩
    simp [hostChars, empty, unnamed empty]

/-!
## Bodies
-/

/-- What stands between the scheme and the query. A file has neither credentials nor a port, and its host is not the
local one, which goes without saying. -/
structure WrittenBody (url : Url) (host : Host) (segments : List (List Char)) : Prop extends
    WrittenAuthority url host where
  path : url.path = .segments segments
  segments : HeldPath url.scheme segments
  plainFile : url.scheme = "file".toList →
    url.username = [] ∧ url.password = [] ∧ url.port = none ∧ host ≠ .domain "localhost".toList

def bodyChars (url : Url) : List Char :=
  '/' :: '/' :: (url.credentialChars ++ url.hostChars ++ url.path.chars)

/-- A path is cut off behind a text without slashes. -/
theorem cut_path {front : List Char} {holds : Char → Bool} (all : ∀ character ∈ front, holds character = true)
    (slash : holds '/' = false) (segments : List (List Char)) :
    (front ++ (Path.segments segments).chars).takeWhile holds = front ∧
      (front ++ (Path.segments segments).chars).dropWhile holds = (Path.segments segments).chars := by
  rw [List.takeWhile_append_of_pos all, List.dropWhile_append_of_pos all]
  cases segments with
  | nil => simp [Path.chars]
  | cons first others => simp [Path.chars, slash]

theorem WrittenAuthority.slashless (written : WrittenAuthority url host) :
    ∀ character ∈ url.credentialChars ++ url.hostChars, character ≠ '/' ∧ character ≠ '\\' := by
  intro character member
  constructor
  · rintro rfl
    rcases List.mem_append.mp member with front | behind
    · exact written.notMem_credentialChars (by decide) front
    · exact written.notMem_hostChars (by decide) behind
  · rintro rfl
    rcases List.mem_append.mp member with front | behind
    · exact written.notMem_credentialChars (by decide) front
    · exact written.notMem_hostChars (by decide) behind

theorem WrittenAuthority.authority_ne_nil (written : WrittenAuthority url host) :
    url.credentialChars ++ url.hostChars ≠ [] :=
  List.append_ne_nil_of_right_ne_nil _ written.hostChars_ne_nil

theorem WrittenAuthority.not_isSlash (written : WrittenAuthority url host)
    (member : character ∈ url.credentialChars ++ url.hostChars) : (!isSlash character) = true := by
  simpa [isSlash] using written.slashless character member

/-- The slashes before an authority are dropped, and nothing of it. -/
theorem dropWhile_isSlash {authority : List Char} (clear : ∀ character ∈ authority, (!isSlash character) = true)
    (filled : authority ≠ []) (rest : List Char) :
    ('/' :: '/' :: (authority ++ rest)).dropWhile isSlash = authority ++ rest := by
  obtain ⟨first, others, rfl⟩ := List.exists_cons_of_ne_nil filled
  have apart : isSlash first = false := by simpa using clear first List.mem_cons_self
  have slash : isSlash '/' = true := by decide
  simp [slash, apart]

/-- A host and a path are not taken for a drive. -/
theorem not_isDrive_of_shape {name : List Char} (shape : Host.Shape name) : isDrive name = false := by
  refine Bool.eq_false_iff.mpr fun drive => ?_
  obtain ⟨letter, mark, alpha, marked, rfl⟩ := isDrive_iff.mp drive
  generalize spelled : [letter, mark] = name at shape
  cases shape with
  | clear clear =>
      have allowed := (clear mark (by simp [← spelled])).2
      rcases marked with rfl | rfl
      · exact absurd allowed (by decide)
      · exact absurd allowed (by decide)
  | bracketed bracketed =>
      obtain rfl : letter = '[' := by simpa using (List.cons.inj spelled).1
      exact absurd alpha (by decide)

/-- The host of a file is read back. -/
theorem WrittenBody.readFile? (written : WrittenBody url host segments) (file : url.scheme = "file".toList) :
    Url.readFile? url.bodyChars = some { url with query := none, fragment := none } := by
  obtain ⟨username, password, port, distant⟩ := written.plainFile file
  have body : url.bodyChars = '/' :: '/' :: (host.text ++ (Path.segments segments).chars) := by
    simp [bodyChars, credentialChars, username, password, hostChars, written.held, port, written.path]
  have clear : ∀ character ∈ host.text, (!isSlash character) = true := by
    intro character member
    refine written.not_isSlash (List.mem_append_right _ ?_)
    rw [hostChars_eq written.held]
    exact List.mem_append_left _ member
  have cut := cut_path clear (by decide) segments
  have read := written.hosted.read
  have special : isSpecialScheme "file".toList = true := by decide
  rw [file, readHost?, if_pos special] at read
  have named : host.text.isEmpty = false := by simp [written.hosted.named]
  have found : readFileHost? host.text = some host := by
    rw [readFileHost?, named, if_neg (by decide), read, Option.map_some, if_neg distant]
  have path := written.segments.read
  rw [file] at path
  have slash : isSlash '/' = true := by decide
  rw [body, Url.readFile?, slash]
  simp only [Bool.and_self, if_true, cut.1, cut.2, not_isDrive_of_shape written.hosted.shape, Bool.false_eq_true,
    if_false, found, path, Option.map_some]
  rw [username, password, port, written.held, written.path, file]

/-- What stands between the scheme and the query is read back. -/
theorem WrittenBody.readBody? (written : WrittenBody url host segments) :
    Url.readBody? url.scheme url.bodyChars = some { url with query := none, fragment := none } := by
  by_cases file : url.scheme = "file".toList
  · rw [Url.readBody?.eq_def, if_pos file]
    exact written.readFile? file
  · have path := written.segments.read
    have read := written.readAuthority?
    rw [Url.readBody?.eq_def, if_neg file]
    split
    · next special =>
        have clear : ∀ character ∈ url.credentialChars ++ url.hostChars, (!isSlash character) = true :=
          fun _ member => written.not_isSlash member
        have hierarchy : url.bodyChars.dropWhile isSlash =
            url.credentialChars ++ url.hostChars ++ url.path.chars :=
          dropWhile_isSlash clear written.authority_ne_nil _
        have cut := cut_path clear (by decide) segments
        simp only [hierarchy, written.path, cut.1, cut.2, read, Option.map_some, path]
    · have clear : ∀ character ∈ url.credentialChars ++ url.hostChars, (character != '/') = true := by
        intro character member
        simpa using (written.slashless character member).1
      have cut := cut_path clear (by decide) segments
      simp only [bodyChars, written.path, cut.1, cut.2, read, Option.map_some, path]

/-- A file URL whose host has a text is in written form. -/
theorem writtenBody_of_readFile? {body : List Char} (read : readFile? body = some url) (named : url.hostChars ≠ []) :
    url.scheme = "file".toList ∧ ∃ host segments, WrittenBody url host segments := by
  have special : isSpecialScheme "file".toList = true := by decide
  unfold readFile? at read
  extract_lets scheme withPath at read
  -- A file without a host in its text has the empty one.
  have distant {path : List Char} (local_ : withPath .empty path = url) : False := by
    rw [← local_] at named
    exact named rfl
  split at read
  · next first second rest =>
      split at read
      · extract_lets name at read
        split at read
        · exact (distant (Option.some.inj read)).elim
        · obtain ⟨host, found, rfl⟩ := Option.map_eq_some_iff.mp read
          unfold readFileHost? at found
          split at found
          · obtain rfl := Option.some.inj found
            exact (distant rfl).elim
          · obtain ⟨given, known, same⟩ := Option.map_eq_some_iff.mp found
            split at same
            · obtain rfl := same
              exact (distant rfl).elim
            · next elsewhere =>
                obtain rfl := same
                have hosted : WrittenHost "file".toList given :=
                  writtenHost_of_readHost? (by rw [readHost?, if_pos special]; exact known) named
                exact ⟨rfl, given, _, ⟨⟨List.forall_mem_nil _, List.forall_mem_nil _, rfl, hosted,
                  fun _ none => by cases none⟩, rfl, heldPath_readSegments _ _ _,
                  fun _ => ⟨rfl, rfl, rfl, elsewhere⟩⟩⟩
      · exact (distant (Option.some.inj read)).elim
  · exact (distant (Option.some.inj read)).elim

theorem writtenBody_of_readBody? {body : List Char} (read : readBody? scheme body = some url) (named : url.hostChars ≠ []) :
    url.scheme = scheme ∧ ∃ host segments, WrittenBody url host segments := by
  rw [readBody?.eq_def] at read
  split at read
  · next file =>
      rw [file]
      exact writtenBody_of_readFile? read named
  · next other =>
      -- The path is put behind what is read of the authority.
      have finish {authority : Url} {text path : List Char} (found : readAuthority? scheme text = some authority)
          (same : { authority with path := .segments (readSegments scheme path) } = url) :
          url.scheme = scheme ∧ ∃ host segments, WrittenBody url host segments := by
        subst same
        obtain ⟨rfl, host, written⟩ := writtenAuthority_of_readAuthority? found named
        exact ⟨rfl, host, _, { written with }, rfl, heldPath_readSegments _ _ _, fun file => absurd file other⟩
      split at read
      · obtain ⟨authority, found, same⟩ := Option.map_eq_some_iff.mp read
        exact finish found same
      · split at read
        · obtain ⟨authority, found, same⟩ := Option.map_eq_some_iff.mp read
          exact finish found same
        · obtain rfl := Option.some.inj read
          exact absurd rfl named
        · obtain rfl := Option.some.inj read
          exact absurd rfl named

/-!
## URLs
-/

/-- What has to be encoded in a query under a scheme. -/
def querySet (scheme : List Char) : Char → Bool :=
  if isSpecialScheme scheme then inSpecialQuerySet else inQuerySet

/-- A URL with a host, in written form. -/
structure Written (url : Url) (host : Host) (segments : List (List Char)) : Prop extends
    WrittenBody url host segments where
  scheme : WrittenScheme url.scheme
  query : ∀ query ∈ url.query, Encoded (querySet url.scheme) query
  fragment : ∀ fragment ∈ url.fragment, Encoded inFragmentSet fragment

theorem spares_querySetOf (scheme : List Char) : Spares (querySet scheme) := by
  unfold querySet
  split
  · exact spares_specialQuerySet
  · exact spares_querySet

theorem querySetOf_demands (scheme : List Char) (demanded : inQuerySet character = true) :
    querySet scheme character = true := by
  unfold querySet
  split
  · simp [inSpecialQuerySet, demanded]
  · exact demanded

theorem chars_eq (held : url.host = some host) :
    url.chars = url.scheme ++ ':' :: (url.bodyChars ++ marked '?' url.query ++ marked '#' url.fragment) := by
  simp [chars, authorityChars, held, bodyChars]

theorem Written.notMem_bodyChars (written : Written url host segments) {mark : Char} (ends : mark ∈ ['#', '?']) :
    mark ∉ url.bodyChars := by
  have apart : ∀ mark ∈ ['#', '?'], mark ≠ '/' ∧ inPathSet mark = true ∧ mark ∈ ['#', '/', '?', '\\'] ∧
      mark ∈ ['#', '/', '?', '@', '\\'] :=
    Text.forall_mem_of_all (by decide)
  obtain ⟨notSlash, demanded, endsCredentials, endsHost⟩ := apart mark ends
  intro member
  simp only [bodyChars, List.mem_cons, List.mem_append] at member
  rcases member with slash | slash | (credentials | named) | path
  · exact notSlash slash
  · exact notSlash slash
  · exact written.notMem_credentialChars endsCredentials credentials
  · exact written.notMem_hostChars endsHost named
  · rw [written.path] at path
    rcases written.segments.mem_chars path with slash | spared
    · exact notSlash slash
    · rw [demanded] at spared
      cases spared

theorem Written.visible_bodyChars (written : Written url host segments) : Visible url.bodyChars := by
  intro character member
  simp only [bodyChars, List.mem_cons, List.mem_append] at member
  rcases member with rfl | rfl | (credentials | named) | path
  · decide
  · decide
  · rcases mem_credentialChars credentials with user | secret | rfl | rfl
    · exact written.username.visible userinfoSet_demands character user
    · exact written.password.visible userinfoSet_demands character secret
    · decide
    · decide
  · exact written.visible_hostChars character named
  · rw [written.path] at path
    exact written.segments.visible character path

theorem visible_marked {mark : Char} {component : Option (List Char)} (visible : 0x20 < mark.toNat)
    (held : ∀ text ∈ component, Visible text) : Visible (marked mark component) := by
  cases component with
  | none => exact fun _ member => by cases member
  | some text => exact List.forall_mem_cons.mpr ⟨visible, held text rfl⟩

theorem Written.visible (written : Written url host segments) : Visible url.chars := by
  have scheme : Visible url.scheme := fun character member =>
    (isSchemeChar_toLower (written.scheme.each character member).1).2.2.2
  have query : Visible (marked '?' url.query) := visible_marked (by decide) fun text held =>
    (written.query text held).visible fun character low => querySetOf_demands url.scheme (querySet_demands character low)
  have fragment : Visible (marked '#' url.fragment) := visible_marked (by decide) fun text held =>
    (written.fragment text held).visible fragmentSet_demands
  rw [chars_eq written.held]
  refine List.forall_mem_append.mpr ⟨scheme, List.forall_mem_cons.mpr ⟨by decide, ?_⟩⟩
  exact List.forall_mem_append.mpr ⟨List.forall_mem_append.mpr ⟨written.visible_bodyChars, query⟩, fragment⟩

theorem withoutBreaks_of_visible (visible : Visible text) : withoutBreaks text = text := by
  refine List.filter_eq_self.mpr fun character member => ?_
  have above := visible character member
  have apart : character ≠ '\t' ∧ character ≠ '\n' ∧ character ≠ '\r' := by
    refine ⟨?_, ?_, ?_⟩
    · rintro rfl
      exact absurd above (by decide)
    · rintro rfl
      exact absurd above (by decide)
    · rintro rfl
      exact absurd above (by decide)
  simp [apart]

/-- A text without blanks and controls is read as it is. -/
theorem parse?_of_visible {text : String} (visible : Visible text.toList) : parse? text = readChars? text.toList := by
  have inner (given : List Char) (seen : Visible given) : given.dropWhile isEdge = given := by
    cases given with
    | nil => rfl
    | cons character rest =>
        have edge : isEdge character = false := by
          have above := seen character List.mem_cons_self
          simp only [isEdge, decide_eq_false_iff_not]
          omega
        simp [edge]
  rw [parse?, inner _ visible, inner _ (by simpa [Visible] using visible), List.reverse_reverse, withoutBreaks_of_visible visible]

/-- A URL with a host is read back from its text. -/
theorem Written.parse?_href (written : Written url host segments) : Url.parse? url.href = some url := by
  have text : url.href.toList = url.chars := String.toList_ofList
  have fragment : '#' ∉ url.bodyChars ++ marked '?' url.query := by
    intro member
    rcases List.mem_append.mp member with body | query
    · exact written.notMem_bodyChars (by decide) body
    · cases given : url.query with
      | none => simp [given, marked] at query
      | some component =>
          rw [given] at query
          rcases List.mem_cons.mp query with same | within
          · exact absurd same (by decide)
          · exact (written.query component given).notMem (querySetOf_demands url.scheme (by decide)) within
  have query : '?' ∉ url.bodyChars := written.notMem_bodyChars (by decide)
  have queries : url.query.map (percentEncode (querySet url.scheme)) = url.query := by
    cases given : url.query with
    | none => rfl
    | some component => exact congrArg some (written.query component given).percentEncode_eq
  have fragments : url.fragment.map (percentEncode inFragmentSet) = url.fragment := by
    cases given : url.fragment with
    | none => rfl
    | some component => exact congrArg some (written.fragment component given).percentEncode_eq
  -- The fragment goes first: it may hold a question mark, and nothing before it holds its own mark.
  rw [parse?_of_visible (text ▸ written.visible), text, chars_eq written.held, readChars?,
    written.scheme.readScheme?]
  simp only [Option.bind_eq_bind, Option.bind_some, cutAt_marked fragment, cutAt_marked query, written.readBody?,
    fragments]
  rw [querySet] at queries
  rw [queries]

/-- Every URL with a host that is read is in written form. -/
theorem written_of_parse? {text : String} (read : parse? text = some url) (named : url.hostChars ≠ []) :
    ∃ host segments, Written url host segments := by
  obtain ⟨⟨scheme, rest⟩, led, read⟩ := Option.bind_eq_some_iff.mp read
  obtain ⟨body, found, read⟩ := Option.bind_eq_some_iff.mp read
  obtain rfl := Option.some.inj read
  obtain ⟨rfl, host, segments, written⟩ := writtenBody_of_readBody? found named
  refine ⟨host, segments, ⟨{ written.toWrittenAuthority with }, written.path, written.segments, written.plainFile⟩,
    writtenScheme_of_readScheme? led, ?_, ?_⟩
  · intro query given
    obtain ⟨component, _, rfl⟩ := Option.map_eq_some_iff.mp given
    exact encoded_percentEncode (spares_querySetOf body.scheme) component
  · intro fragment given
    obtain ⟨component, _, rfl⟩ := Option.map_eq_some_iff.mp given
    exact encoded_percentEncode spares_fragmentSet component

end JoinTrust.Url
