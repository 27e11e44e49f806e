import Mathlib.Logic.ExistsUnique
import SipOverRelay.Proofs.Tokens

/-!
# The grammar of server tokens

The grammar is said on its own here, without the order in which a token is read: a host in one of
the two ways to write it, then one field or three, which are numerals with an upper bound. A token
with well placed delimiters consists of its parts in one way only. So it names one server at most,
and where it names none the first fault decides: a host that is missing, then the number of fields
and the delay, then a port.
-/

namespace SipOverRelay

namespace Text

/-- A numeral: one or more ASCII digits, with or without one plus sign in front. -/
inductive IsNumeral : (text : List Char) → (value : Nat) → Prop where
  /-- The digits alone. -/
  | plain {digits : List Char} (nonempty : digits ≠ [])
    (isDigit : ∀ c ∈ digits, c.isDigit = true) : IsNumeral digits (Nat.ofDigitChars 10 digits 0)
  /-- A plus sign and the digits. -/
  | signed {digits : List Char} (nonempty : digits ≠ [])
    (isDigit : ∀ c ∈ digits, c.isDigit = true) :
    IsNumeral ('+' :: digits) (Nat.ofDigitChars 10 digits 0)

/-- Digits have no plus sign in front that could be taken off. -/
theorem unsigned_of_isDigit {digits : List Char} (h : ∀ c ∈ digits, c.isDigit = true) :
    unsigned digits = digits := by
  unfold unsigned
  split
  · exact absurd (h '+' List.mem_cons_self) (by decide)
  · rfl

/-- A text is a numeral if digits are left when the plus sign is taken off. -/
theorem isNumeral_iff {text : List Char} {value : Nat} :
    IsNumeral text value ↔ unsigned text ≠ [] ∧ (∀ c ∈ unsigned text, c.isDigit = true) ∧
      Nat.ofDigitChars 10 (unsigned text) 0 = value := by
  constructor
  · intro h
    cases h with
    | plain nonempty isDigit =>
      rw [unsigned_of_isDigit isDigit]
      exact ⟨nonempty, isDigit, rfl⟩
    | signed nonempty isDigit => exact ⟨nonempty, isDigit, rfl⟩
  · rintro ⟨nonempty, isDigit, rfl⟩
    revert nonempty isDigit
    unfold unsigned
    split
    · exact .signed
    · exact .plain

/-- Exactly the numerals within the bound are read, each as its value. -/
theorem numeral?_eq_some_iff {limit value : Nat} {text : List Char} :
    numeral? limit text = some value ↔ IsNumeral text value ∧ value ≤ limit := by
  simp only [numeral?, Option.ite_none_right_eq_some, Bool.and_eq_true, Bool.not_eq_true',
    List.isEmpty_eq_false_iff, List.all_eq_true, decide_eq_true_eq, Option.some.injEq,
    isNumeral_iff, and_assoc]
  constructor
  · rintro ⟨nonempty, isDigit, hle, rfl⟩
    exact ⟨nonempty, isDigit, rfl, hle⟩
  · rintro ⟨nonempty, isDigit, rfl, hle⟩
    exact ⟨nonempty, isDigit, hle, rfl⟩

/-- Exactly the numerals of ports are read as ports. -/
theorem port?_eq_some_iff {text : List Char} {port : UInt16} :
    port? text = some port ↔ IsNumeral text port.toNat := by
  have hlt := port.toNat_lt
  simp only [port?, Option.map_eq_some_iff, numeral?_eq_some_iff]
  constructor
  · rintro ⟨value, ⟨h, hle⟩, rfl⟩
    rwa [UInt16.toNat_ofNat_of_lt' (by rw [UInt16.size]; omega)]
  · intro h
    exact ⟨port.toNat, ⟨h, by omega⟩, UInt16.ofNat_toNat⟩

/-- Exactly the numerals of 32 bit numbers are read as such. -/
theorem word?_eq_some_iff {text : List Char} {word : UInt32} :
    word? text = some word ↔ IsNumeral text word.toNat := by
  have hlt := word.toNat_lt
  simp only [word?, Option.map_eq_some_iff, numeral?_eq_some_iff]
  constructor
  · rintro ⟨value, ⟨h, hle⟩, rfl⟩
    rwa [UInt32.toNat_ofNat_of_lt' (by rw [UInt32.size]; omega)]
  · intro h
    exact ⟨word.toNat, ⟨h, by omega⟩, UInt32.ofNat_toNat⟩

end Text

namespace Server

/-- A port: a numeral up to 65535. -/
def IsPort (field : List Char) : Prop := ∃ n ≤ 65535, Text.IsNumeral field n

/-- A delay: a numeral up to 4294967295. -/
def IsDelay (field : List Char) : Prop := ∃ n ≤ 4294967295, Text.IsNumeral field n

/-- Up to 65535 a numeral has a value of 16 bits. -/
theorem isPort_iff {field : List Char} :
    IsPort field ↔ ∃ port : UInt16, Text.IsNumeral field port.toNat := by
  constructor
  · rintro ⟨n, hle, h⟩
    refine ⟨UInt16.ofNat n, ?_⟩
    rwa [UInt16.toNat_ofNat_of_lt' (by rw [UInt16.size]; omega)]
  · rintro ⟨port, h⟩
    have hlt := port.toNat_lt
    exact ⟨port.toNat, by omega, h⟩

/-- Up to 4294967295 a numeral has a value of 32 bits. -/
theorem isDelay_iff {field : List Char} :
    IsDelay field ↔ ∃ delay : UInt32, Text.IsNumeral field delay.toNat := by
  constructor
  · rintro ⟨n, hle, h⟩
    refine ⟨UInt32.ofNat n, ?_⟩
    rwa [UInt32.toNat_ofNat_of_lt' (by rw [UInt32.size]; omega)]
  · rintro ⟨delay, h⟩
    have hlt := delay.toNat_lt
    exact ⟨delay.toNat, by omega, h⟩

/-- A port is read. -/
theorem readPort_of_isPort {field : List Char} (h : IsPort field) :
    ∃ port, readPort field = .ok port := by
  obtain ⟨port, hp⟩ := isPort_iff.mp h
  exact ⟨port, readPort_eq_ok_iff.mpr (Text.port?_eq_some_iff.mpr hp)⟩

/-- What is no port is named in the error. -/
theorem readPort_of_not_isPort {field : List Char} (h : ¬IsPort field) :
    readPort field = .error (.badPort (String.ofList field)) := by
  have hnone : Text.port? field = none := Option.eq_none_iff_forall_ne_some.mpr fun port hp =>
    h (isPort_iff.mpr ⟨port, Text.port?_eq_some_iff.mp hp⟩)
  rw [readPort, hnone]

/-- What is no delay is not read. -/
theorem word?_of_not_isDelay {field : List Char} (h : ¬IsDelay field) : Text.word? field = none :=
  Option.eq_none_iff_forall_ne_some.mpr fun delay hd =>
    h (isDelay_iff.mpr ⟨delay, Text.word?_eq_some_iff.mp hd⟩)

/-- A token taken to pieces. -/
structure Parts where
  /-- The host as it stands there, with brackets if it has some. -/
  written : List Char
  /-- The fields behind it. -/
  fields : List (List Char)

namespace Parts

/-- The pieces make up the token: a host in one of the two ways to write it, then one or more
fields, with a colon in front of each. -/
structure Makes (parts : Parts) (token host : List Char) : Prop where
  /-- The host is written in one of the two ways. -/
  spells : Spells parts.written host
  /-- Colons hold the pieces together. -/
  token_eq : token = parts.written ++ ':' :: [':'].intercalate parts.fields
  /-- There is a field. -/
  nonempty : parts.fields ≠ []
  /-- A field ends at the first colon. -/
  noColon : ∀ field ∈ parts.fields, ':' ∉ field

variable {parts : Parts} {token host : List Char}

/-- A token with a host can be taken to pieces. -/
theorem exists_makes {rest : List Char} (h : hostAndFields? token = some (host, rest)) :
    ∃ parts : Parts, parts.Makes token host ∧ rest.splitOn ':' = parts.fields := by
  obtain ⟨written, spells, rfl⟩ := spells_of_hostAndFields? h
  refine ⟨⟨written, rest.splitOn ':'⟩, ⟨spells, ?_, List.splitOn_ne_nil _ _, ?_⟩, rfl⟩
  · rw [List.intercalate_splitOn]
  · intro field hfield hcolon
    rw [List.splitOn_eq_splitOnP] at hfield
    exact absurd (Text.not_of_mem_splitOnP hfield _ hcolon) (by simp)

/-- Taking the token apart finds the pieces. -/
theorem Makes.cut (h : parts.Makes token host) :
    ∃ rest, hostAndFields? token = some (host, rest) ∧ rest.splitOn ':' = parts.fields := by
  refine ⟨[':'].intercalate parts.fields, ?_, List.splitOn_intercalate _ h.noColon h.nonempty⟩
  rw [h.token_eq, hostAndFields?_of_spells h.spells]

/-- There is only one way to take a token to pieces. -/
theorem Makes.unique (h : parts.Makes token host) {others : Parts} {host' : List Char}
    (h' : others.Makes token host') : others = parts := by
  obtain ⟨rest, hcut, hfields⟩ := h.cut
  obtain ⟨rest', hcut', hfields'⟩ := h'.cut
  obtain ⟨-, hrest⟩ := Prod.mk.inj (Option.some.inj (hcut'.symm.trans hcut))
  have hsame : others.fields = parts.fields := by rw [← hfields, ← hfields', hrest]
  have hwritten : others.written = parts.written := by
    have htoken := h'.token_eq.symm.trans h.token_eq
    rw [hsame] at htoken
    exact List.append_cancel_right htoken
  obtain ⟨written, fields⟩ := parts
  cases hsame
  cases hwritten
  rfl

end Parts

/-- What the fields stand for. -/
inductive Denotes : (fields : List (List Char)) → UInt16 → Option Reflector → Prop where
  /-- One field is the port. -/
  | port {field : List Char} {port : UInt16} (h : Text.IsNumeral field port.toNat) :
    Denotes [field] port none
  /-- Three fields are the port, the reflector's port and its delay. -/
  | reflector {field second third : List Char} {port : UInt16} {reflector : Reflector}
    (h : Text.IsNumeral field port.toNat) (hp : Text.IsNumeral second reflector.port.toNat)
    (hd : Text.IsNumeral third reflector.delay.toNat) :
    Denotes [field, second, third] port (some reflector)

/-- The reader is told what the fields stand for. -/
theorem tells_iff_denotes {fields : List (List Char)} {port : UInt16}
    {reflector : Option Reflector} :
    Tells fields port reflector ↔ Denotes fields port reflector := by
  constructor
  · rintro (h | ⟨h, hp, hd⟩)
    · exact .port (Text.port?_eq_some_iff.mp h)
    · exact .reflector (Text.port?_eq_some_iff.mp h) (Text.port?_eq_some_iff.mp hp)
        (Text.word?_eq_some_iff.mp hd)
  · rintro (h | ⟨h, hp, hd⟩)
    · exact .port (Text.port?_eq_some_iff.mpr h)
    · exact .reflector (Text.port?_eq_some_iff.mpr h) (Text.port?_eq_some_iff.mpr hp)
        (Text.word?_eq_some_iff.mpr hd)

/-- The pieces of a token name a server. -/
structure Parts.Names (parts : Parts) (token : List Char) (server : Server) : Prop where
  /-- They make up the token, with the server's host in it. -/
  makes : parts.Makes token server.host.toList
  /-- There is a host. -/
  hasHost : server.host.toList ≠ []
  /-- The fields stand for the server's port and reflector. -/
  denotes : Denotes parts.fields server.port server.reflector

/-- What the fields behind a host stand for is named together with the host. -/
theorem Parts.Makes.names {parts : Parts} {token host : List Char} {port : UInt16}
    {reflector : Option Reflector} (h : parts.Makes token host) (hne : host ≠ [])
    (hd : Denotes parts.fields port reflector) :
    parts.Names token ⟨String.ofList host, port, reflector⟩ where
  makes := by simpa using h
  hasHost := by simpa using hne
  denotes := hd

/-- The delimiters around the host fit, but there is nothing between them. -/
def LacksHost (token : List Char) : Prop :=
  ∃ written rest, Spells written [] ∧ token = written ++ ':' :: rest

/-- The first port among one or three fields that is none, the delay being one. -/
inductive FirstBadPort : (fields : List (List Char)) → (field : List Char) → Prop where
  /-- The only field. -/
  | only {port : List Char} (h : ¬IsPort port) : FirstBadPort [port] port
  /-- The first field, whatever the reflector's port. -/
  | first {port reflectorPort delay : List Char} (hd : IsDelay delay) (h : ¬IsPort port) :
    FirstBadPort [port, reflectorPort, delay] port
  /-- The reflector's port alone. -/
  | second {port reflectorPort delay : List Char} (hd : IsDelay delay) (hp : IsPort port)
    (h : ¬IsPort reflectorPort) : FirstBadPort [port, reflectorPort, delay] reflectorPort

/-- Behind a host the fields have this bad port. -/
def HasBadPort (token field : List Char) : Prop :=
  ∃ (parts : Parts) (host : List Char), parts.Makes token host ∧ host ≠ [] ∧
    FirstBadPort parts.fields field

variable {token : List Char}

/-- A token is read as the server that its pieces name. -/
theorem ofToken_eq_ok_iff_names {server : Server} :
    ofToken token = .ok server ↔ ∃ parts : Parts, parts.Names token server := by
  constructor
  · intro h
    obtain ⟨hne, written, rest, hs, rfl, ht⟩ := ofToken_eq_ok_iff.mp h
    obtain ⟨parts, hmakes, hfields⟩ := Parts.exists_makes (hostAndFields?_of_spells hs rest)
    rw [hfields] at ht
    exact ⟨parts, hmakes, hne, tells_iff_denotes.mp ht⟩
  · rintro ⟨parts, hmakes, hne, hd⟩
    obtain ⟨rest, hcut, hfields⟩ := hmakes.cut
    refine (ofToken_eq_ok_iff_of_host hcut hne).mpr ⟨by simp, ?_⟩
    rw [hfields]
    exact tells_iff_denotes.mpr hd

theorem ofToken_of_lacksHost (h : LacksHost token) : ofToken token = .error .emptyHost := by
  obtain ⟨written, rest, hs, rfl⟩ := h
  simp [ofToken, hostAndFields?_of_spells hs]

theorem ofToken_of_hasBadPort {field : List Char} (h : HasBadPort token field) :
    ofToken token = .error (.badPort (String.ofList field)) := by
  obtain ⟨⟨written, fields⟩, host, hmakes, hne, hbad⟩ := h
  obtain ⟨rest, hcut, hfields⟩ := hmakes.cut
  simp only [ofToken, hcut, if_neg hne, hfields]
  cases hbad with
  | only h =>
    simp only [readPort_of_not_isPort h]
    rfl
  | first hd h =>
    obtain ⟨delay, hd⟩ := isDelay_iff.mp hd
    simp only [Text.word?_eq_some_iff.mpr hd, readPort_of_not_isPort h]
    rfl
  | second hd hp h =>
    obtain ⟨delay, hd⟩ := isDelay_iff.mp hd
    obtain ⟨port, hp⟩ := readPort_of_isPort hp
    simp only [Text.word?_eq_some_iff.mpr hd, hp, readPort_of_not_isPort h]
    rfl

/-- The outcomes of reading a token, each with its reason. -/
inductive Reading (token : List Char) : Except ServerError Server → Prop where
  /-- The pieces of the token name a server. -/
  | names {server : Server} {parts : Parts} (h : parts.Names token server) :
    Reading token (.ok server)
  /-- There is no host. -/
  | lacksHost (h : LacksHost token) : Reading token (.error .emptyHost)
  /-- There is a bad port. -/
  | badPort {field : List Char} (h : HasBadPort token field) :
    Reading token (.error (.badPort (String.ofList field)))
  /-- Whatever else is wrong. -/
  | malformed : Reading token (.error (.malformed (String.ofList token)))

/-- Pieces that name a server are read as this server. -/
theorem Parts.Names.reading {parts : Parts} {server : Server} (h : parts.Names token server) :
    Reading token (ofToken token) := by
  rw [ofToken_eq_ok_iff_names.mpr ⟨parts, h⟩]
  exact .names h

/-- A bad port behind a host is the reason for the outcome. -/
theorem HasBadPort.reading {field : List Char} (h : HasBadPort token field) :
    Reading token (ofToken token) := by
  rw [ofToken_of_hasBadPort h]
  exact .badPort h

/-- Every outcome has its reason. -/
theorem reading_ofToken (token : List Char) : Reading token (ofToken token) := by
  have hmalformed (h : ofToken token = .error (.malformed (String.ofList token))) :
      Reading token (ofToken token) := h ▸ .malformed
  cases hcut : hostAndFields? token with
  | none => exact hmalformed (by simp [ofToken, hcut])
  | some cut =>
    obtain ⟨host, rest⟩ := cut
    by_cases hne : host = []
    · obtain ⟨written, hs, ht⟩ := spells_of_hostAndFields? hcut
      have hlacks : LacksHost token := ⟨written, rest, hne ▸ hs, ht⟩
      rw [ofToken_of_lacksHost hlacks]
      exact .lacksHost hlacks
    · obtain ⟨parts, hmakes, hfields⟩ := Parts.exists_makes hcut
      have hbad {field : List Char} (h : FirstBadPort parts.fields field) :
          Reading token (ofToken token) := HasBadPort.reading ⟨parts, host, hmakes, hne, h⟩
      -- One case for each number of fields up to three, and one for all others.
      rcases parts with ⟨written, _ | ⟨port, _ | ⟨second, _ | ⟨delay, _ | ⟨fourth, more⟩⟩⟩⟩⟩
      · exact absurd rfl hmakes.nonempty
      · by_cases hport : IsPort port
        · obtain ⟨p, hp⟩ := isPort_iff.mp hport
          exact (hmakes.names hne (.port hp)).reading
        · exact hbad (.only hport)
      · exact hmalformed (by simp [ofToken, hcut, hne, hfields])
      · by_cases hdelay : IsDelay delay
        · by_cases hport : IsPort port
          · by_cases hsecond : IsPort second
            · obtain ⟨p, hp⟩ := isPort_iff.mp hport
              obtain ⟨q, hq⟩ := isPort_iff.mp hsecond
              obtain ⟨d, hd⟩ := isDelay_iff.mp hdelay
              have hdenotes : Denotes [port, second, delay] p (some ⟨q, d⟩) :=
                .reflector hp hq hd
              exact (hmakes.names hne hdenotes).reading
            · exact hbad (.second hdelay hport hsecond)
          · exact hbad (.first hdelay hport)
        · exact hmalformed (by simp [ofToken, hcut, hne, hfields, word?_of_not_isDelay hdelay])
      · exact hmalformed (by simp [ofToken, hcut, hne, hfields])

theorem ofToken_eq_emptyHost_iff : ofToken token = .error .emptyHost ↔ LacksHost token := by
  refine ⟨fun h => ?_, ofToken_of_lacksHost⟩
  have hreading := reading_ofToken token
  rw [h] at hreading
  cases hreading with
  | lacksHost hlacks => exact hlacks

theorem ofToken_eq_badPort_iff {field : String} :
    ofToken token = .error (.badPort field) ↔ HasBadPort token field.toList := by
  refine ⟨fun h => ?_, fun hbad => by simpa using ofToken_of_hasBadPort hbad⟩
  have hreading := reading_ofToken token
  rw [h] at hreading
  cases hreading with
  | badPort hbad => simpa using hbad

/-- A token is malformed if there is no other reason for its outcome. -/
theorem ofToken_eq_malformed_iff {text : String} :
    ofToken token = .error (.malformed text) ↔ text = String.ofList token ∧
      (∀ server (parts : Parts), ¬parts.Names token server) ∧ ¬LacksHost token ∧
      ∀ field, ¬HasBadPort token field := by
  have hreading := reading_ofToken token
  constructor
  · intro h
    refine ⟨?_, fun server parts hnames => ?_, fun hlacks => ?_, fun field hbad => ?_⟩
    · rw [h] at hreading
      cases hreading
      rfl
    · cases h.symm.trans (ofToken_eq_ok_iff_names.mpr ⟨parts, hnames⟩)
    · cases h.symm.trans (ofToken_of_lacksHost hlacks)
    · cases h.symm.trans (ofToken_of_hasBadPort hbad)
  · rintro ⟨rfl, hnames, hlacks, hbad⟩
    generalize ofToken token = outcome at hreading ⊢
    cases hreading with
    | names h => exact absurd h (hnames _ _)
    | lacksHost h => exact absurd h hlacks
    | badPort h => exact absurd h (hbad _)
    | malformed => rfl

/-- A text is read as a server exactly if it consists of pieces, in one way only, that name this
server. Every other text is refused: for its missing host if the delimiters fit, for its first bad
port if nothing else is wrong, and otherwise as malformed. -/
theorem ofText_follows_grammar (text : String) :
    (∀ server, ofText text = .ok server ↔ ∃! parts : Parts, parts.Names text.toList server) ∧
      (ofText text = .error .emptyHost ↔ LacksHost text.toList) ∧
      (∀ field, ofText text = .error (.badPort field) ↔ HasBadPort text.toList field.toList) ∧
      ∀ token, ofText text = .error (.malformed token) ↔ token = text ∧
        (∀ server (parts : Parts), ¬parts.Names text.toList server) ∧
        ¬LacksHost text.toList ∧ ∀ field, ¬HasBadPort text.toList field := by
  refine ⟨fun server => ?_, ofToken_eq_emptyHost_iff, fun field => ofToken_eq_badPort_iff,
    fun token => ?_⟩
  · rw [ofText, ofToken_eq_ok_iff_names]
    constructor
    · rintro ⟨parts, hnames⟩
      exact ⟨parts, hnames, fun others hothers => hnames.makes.unique hothers.makes⟩
    · exact ExistsUnique.exists
  · rw [ofText, ofToken_eq_malformed_iff, String.ofList_toList]

/-- Brackets, signs and leading zeros. -/
example : ofText "[a:[b]:+00443:1:+0" = .ok ⟨"a:[b", 443, some ⟨1, 0⟩⟩ := by rfl

/-- Of a port and a delay that are both bad the delay decides. -/
example : ofText "a:x:1:y" = .error (.malformed "a:x:1:y") := by rfl

end Server

end SipOverRelay
