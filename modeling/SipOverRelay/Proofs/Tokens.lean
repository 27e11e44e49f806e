import SipOverRelay.Server.List

/-!
# Which servers a token can carry

A token is a host, a colon and fields. The host stands there as it is or in square brackets, and
the two ways cannot be confused: a host that stands as it is has no colon and does not begin like a
bracketed one, a bracketed one has no closing bracket. The writer puts brackets around a host that
has a colon and leaves every other host as it is. So a host with a colon must not have a closing
bracket, and a host without must not begin with an opening one; with these hosts, unless they are
empty, and with no others a token brings the server back that it was written for.
-/

namespace SipOverRelay

namespace Text

/-- A written number has digits only. -/
theorem not_mem_numeral {c : Char} (h : c.isDigit = false) (n : Nat) : c ∉ numeral n := fun hc =>
  Bool.false_ne_true (h.symm.trans (isDigit_of_mem_numeral hc))

/-- No white space is a digit. -/
theorem isBlank_of_isDigit {c : Char} (h : c.isDigit = true) : isBlank c = false := by
  have hrange : 48 ≤ c.toNat ∧ c.toNat ≤ 57 := by
    simpa [Char.isDigit, UInt32.le_iff_toNat_le] using h
  unfold isBlank
  simp only [Bool.or_eq_false_iff, Bool.and_eq_false_imp, decide_eq_true_eq,
    decide_eq_false_iff_not, beq_eq_false_iff_ne, ne_eq]
  omega

end Text

/-- Of two readings in a row both succeed if there is an outcome. -/
theorem bind_eq_ok_iff {ε α β : Type} {first : Except ε α} {next : α → Except ε β} {b : β} :
    first >>= next = .ok b ↔ ∃ a, first = .ok a ∧ next a = .ok b := by
  cases first with
  | error why => exact ⟨fun h => (nomatch h), fun ⟨_, h, _⟩ => (nomatch h)⟩
  | ok a => exact ⟨fun h => ⟨a, rfl, h⟩, fun ⟨_, ha, h⟩ => by cases ha; exact h⟩

namespace Server

/-- The ways to write a host in front of its fields. -/
inductive Spells : (written host : List Char) → Prop where
  /-- As it is. -/
  | plain {host : List Char} (noColon : ':' ∉ host) (noOpening : host.head? ≠ some '[') :
    Spells host host
  /-- In square brackets. -/
  | bracketed {host : List Char} (noClosing : ']' ∉ host) : Spells ('[' :: host ++ [']']) host

/-- A host is part of what is written for it. -/
theorem Spells.subset {written host : List Char} (h : Spells written host) : host ⊆ written := by
  cases h with
  | plain => exact fun _ hc => hc
  | bracketed => exact fun _ hc => List.mem_append_left _ (List.mem_cons_of_mem _ hc)

/-- Without an opening bracket in front the host ends at the first colon. -/
theorem hostAndFields?_of_head {token : List Char} (h : token.head? ≠ some '[') :
    hostAndFields? token = cutAt? ':' token := by
  unfold hostAndFields?
  split
  · exact absurd rfl h
  · rfl

/-- Taking a token apart finds the host in one of the two ways to write it. -/
theorem spells_of_hostAndFields? {token host fields : List Char}
    (h : hostAndFields? token = some (host, fields)) :
    ∃ written, Spells written host ∧ token = written ++ ':' :: fields := by
  by_cases hb : token.head? = some '['
  · obtain ⟨inner, rfl⟩ := List.head?_eq_some_iff.mp hb
    simp only [hostAndFields?] at h
    split at h
    · rename_i front back hcut
      cases h
      obtain ⟨hclosing, rfl⟩ := cutAt?_eq_some_iff.mp hcut
      exact ⟨_, .bracketed hclosing, by simp⟩
    · cases h
  · rw [hostAndFields?_of_head hb] at h
    obtain ⟨hcolon, rfl⟩ := cutAt?_eq_some_iff.mp h
    refine ⟨host, .plain hcolon fun hopening => hb ?_, rfl⟩
    rw [List.head?_append, hopening]
    rfl

/-- Either way to write a host is undone by taking the token apart. -/
theorem hostAndFields?_of_spells {written host : List Char} (h : Spells written host)
    (fields : List Char) : hostAndFields? (written ++ ':' :: fields) = some (host, fields) := by
  cases h with
  | plain noColon noOpening =>
    rw [hostAndFields?_of_head, cutAt?_eq_some_iff]
    · exact ⟨noColon, rfl⟩
    · cases written with
      | nil => simp
      | cons c host => simpa using noOpening
  | bracketed noClosing =>
    have hcut : cutAt? ']' (host ++ ']' :: ':' :: fields) = some (host, ':' :: fields) :=
      cutAt?_eq_some_iff.mpr ⟨noClosing, rfl⟩
    simp [hostAndFields?, hcut]

/-- What the fields behind a host say about port and reflector. -/
inductive Tells : (fields : List (List Char)) → UInt16 → Option Reflector → Prop where
  /-- One field is the port. -/
  | port {field : List Char} {port : UInt16} (h : Text.port? field = some port) :
    Tells [field] port none
  /-- Three fields are the port, the reflector's port and its delay. -/
  | reflector {field second third : List Char} {port reflectorPort : UInt16} {delay : UInt32}
    (h : Text.port? field = some port) (hp : Text.port? second = some reflectorPort)
    (hd : Text.word? third = some delay) :
    Tells [field, second, third] port (some ⟨reflectorPort, delay⟩)

/-- A port field is read if it is a port. -/
theorem readPort_eq_ok_iff {field : List Char} {port : UInt16} :
    readPort field = .ok port ↔ Text.port? field = some port := by
  unfold readPort
  split <;> simp [*]

/-- Behind a host that is not empty a server is read if the fields tell one. -/
theorem ofToken_eq_ok_iff_of_host {token host fields : List Char} {server : Server}
    (h : hostAndFields? token = some (host, fields)) (hne : host ≠ []) :
    ofToken token = .ok server ↔ server.host = String.ofList host ∧
      Tells (fields.splitOn ':') server.port server.reflector := by
  unfold ofToken
  simp only [h, if_neg hne]
  generalize fields.splitOn ':' = parts
  obtain ⟨name, number, reflector⟩ := server
  split
  · rename_i field
    constructor
    · intro hread
      obtain ⟨port, hp, he⟩ := bind_eq_ok_iff.mp hread
      cases he
      exact ⟨rfl, .port (readPort_eq_ok_iff.mp hp)⟩
    · rintro ⟨rfl, ht⟩
      cases ht with
      | port hp => exact bind_eq_ok_iff.mpr ⟨_, readPort_eq_ok_iff.mpr hp, rfl⟩
  · rename_i field second third
    constructor
    · intro hread
      split at hread
      · cases hread
      · rename_i delay hd
        obtain ⟨port, hp, hread⟩ := bind_eq_ok_iff.mp hread
        obtain ⟨reflectorPort, hr, he⟩ := bind_eq_ok_iff.mp hread
        cases he
        exact ⟨rfl, .reflector (readPort_eq_ok_iff.mp hp) (readPort_eq_ok_iff.mp hr) hd⟩
    · rintro ⟨rfl, ht⟩
      cases ht with
      | reflector hp hr hd =>
        simp only [hd]
        exact bind_eq_ok_iff.mpr ⟨_, readPort_eq_ok_iff.mpr hp,
          bind_eq_ok_iff.mpr ⟨_, readPort_eq_ok_iff.mpr hr, rfl⟩⟩
  · rename_i hone hthree
    refine ⟨fun hread => (nomatch hread), fun ⟨_, ht⟩ => ?_⟩
    cases ht with
    | port => exact absurd rfl (hone _)
    | reflector => exact absurd rfl (hthree _ _ _)

/-- A server is read from the tokens that write its host in one of the two ways and tell its port
and reflector behind it. -/
theorem ofToken_eq_ok_iff {token : List Char} {server : Server} :
    ofToken token = .ok server ↔ server.host.toList ≠ [] ∧
      ∃ written fields, Spells written server.host.toList ∧ token = written ++ ':' :: fields ∧
        Tells (fields.splitOn ':') server.port server.reflector := by
  constructor
  · intro h
    cases hcut : hostAndFields? token with
    | none => simp [ofToken, hcut] at h
    | some cut =>
      obtain ⟨host, fields⟩ := cut
      by_cases hne : host = []
      · simp [ofToken, hcut, hne] at h
      · obtain ⟨hhost, ht⟩ := (ofToken_eq_ok_iff_of_host hcut hne).mp h
        obtain ⟨written, hs, he⟩ := spells_of_hostAndFields? hcut
        rw [hhost, String.toList_ofList]
        exact ⟨hne, written, fields, hs, he, ht⟩
  · rintro ⟨hne, written, fields, hs, he, ht⟩
    have hcut : hostAndFields? token = some (server.host.toList, fields) := by
      rw [he, hostAndFields?_of_spells hs]
    exact (ofToken_eq_ok_iff_of_host hcut hne).mpr ⟨by simp, ht⟩

/-- How the writer writes a host: in square brackets if it has a colon. -/
def spelled (host : List Char) : List Char := if ':' ∈ host then '[' :: host ++ [']'] else host

/-- The fields that the writer puts behind the host, a colon between them. -/
def fields (server : Server) : List Char :=
  Text.numeral server.port.toNat ++ reflectorSuffix server.reflector

theorem token_eq (server : Server) :
    server.token = spelled server.host.toList ++ ':' :: server.fields := by
  unfold token authority spelled fields
  split <;> simp

/-- What the writer puts behind the host tells the reader port and reflector. -/
theorem tells_fields (server : Server) :
    Tells (server.fields.splitOn ':') server.port server.reflector := by
  have hcolon (n : Nat) : ':' ∉ Text.numeral n := Text.not_mem_numeral (by decide) n
  unfold fields
  cases hr : server.reflector with
  | none =>
    rw [reflectorSuffix, List.append_nil, List.splitOn_eq_singleton (hcolon _)]
    exact .port (Text.port?_numeral _)
  | some reflector =>
    rw [reflectorSuffix, List.cons_append, List.splitOn_append_cons_self_of_not_mem (hcolon _),
      List.splitOn_append_cons_self_of_not_mem (hcolon _), List.splitOn_eq_singleton (hcolon _)]
    exact .reflector (Text.port?_numeral _) (Text.port?_numeral _) (Text.word?_numeral _)

/-- The writer puts digits and colons behind the host. -/
theorem mem_fields {server : Server} {c : Char} (h : c ∈ server.fields) :
    c = ':' ∨ c.isDigit = true := by
  unfold fields at h
  cases hr : server.reflector with
  | none =>
    rw [hr, reflectorSuffix, List.append_nil] at h
    exact .inr (Text.isDigit_of_mem_numeral h)
  | some reflector =>
    simp only [hr, reflectorSuffix, List.mem_append, List.mem_cons, List.cons_append] at h
    rcases h with h | rfl | h | rfl | h
    · exact .inr (Text.isDigit_of_mem_numeral h)
    · exact .inl rfl
    · exact .inr (Text.isDigit_of_mem_numeral h)
    · exact .inl rfl
    · exact .inr (Text.isDigit_of_mem_numeral h)

/-- A host whose end the writer marks: brackets around it need that there is no closing one in it,
and without brackets it must not look as if it had some. -/
def IsDelimited (host : List Char) : Prop :=
  ':' ∈ host ∧ ']' ∉ host ∨ ':' ∉ host ∧ host.head? ≠ some '['

instance (host : List Char) : Decidable (IsDelimited host) :=
  inferInstanceAs (Decidable (_ ∨ _))

/-- The writer writes these hosts in one of the two ways. -/
theorem IsDelimited.spells {host : List Char} (h : IsDelimited host) :
    Spells (spelled host) host := by
  unfold spelled
  rcases h with ⟨hcolon, hclosing⟩ | ⟨hcolon, hopening⟩
  · rw [if_pos hcolon]
    exact .bracketed hclosing
  · rw [if_neg hcolon]
    exact .plain hcolon hopening

/-- If the writer's text holds the host in one of the two ways, the writer has marked its end. -/
theorem isDelimited_of_spells {written host back told : List Char} (hs : Spells written host)
    (h : spelled host ++ ':' :: back = written ++ ':' :: told) : IsDelimited host := by
  cases hs with
  | plain noColon noOpening => exact .inr ⟨noColon, noOpening⟩
  | bracketed noClosing =>
    by_cases hcolon : ':' ∈ host
    · exact .inl ⟨hcolon, noClosing⟩
    · -- The text then has its first colon behind the bare host and behind the bracketed one.
      rw [spelled, if_neg hcolon] at h
      have hbare : cutAt? ':' (host ++ ':' :: back) = some (host, back) :=
        cutAt?_eq_some_iff.mpr ⟨hcolon, rfl⟩
      have hbracketed : cutAt? ':' (host ++ ':' :: back) = some ('[' :: host ++ [']'], told) :=
        cutAt?_eq_some_iff.mpr ⟨by simp [hcolon], h⟩
      have hsame : host = '[' :: host ++ [']'] :=
        congrArg Prod.fst (Option.some.inj (hbare.symm.trans hbracketed))
      have hlength := congrArg List.length hsame
      simp only [List.length_append, List.length_cons, List.length_nil] at hlength
      omega

/-- A token brings its server back exactly if there is a host and its end is marked. -/
theorem ofToken_token_iff {server : Server} :
    ofToken server.token = .ok server ↔
      server.host.toList ≠ [] ∧ IsDelimited server.host.toList := by
  rw [ofToken_eq_ok_iff, token_eq]
  refine and_congr_right fun _ => ⟨?_, fun h => ?_⟩
  · rintro ⟨written, told, hs, ht, _⟩
    exact isDelimited_of_spells hs ht
  · exact ⟨_, _, h.spells, rfl, server.tells_fields⟩

/-- A host that is written without brackets and looks like a bracketed one. -/
def IsMistakable (host : List Char) : Prop := ':' ∉ host ∧ host.head? = some '['

instance (host : List Char) : Decidable (IsMistakable host) := inferInstanceAs (Decidable (_ ∧ _))

/-- Of the hosts that can be written in one of the two ways, the writer marks the end of all but
the mistakable ones. -/
theorem Spells.isDelimited {written host : List Char} (h : Spells written host)
    (hm : ¬IsMistakable host) : IsDelimited host := by
  cases h with
  | plain noColon noOpening => exact .inr ⟨noColon, noOpening⟩
  | bracketed noClosing =>
    by_cases hcolon : ':' ∈ host
    · exact .inl ⟨hcolon, noClosing⟩
    · exact .inr ⟨hcolon, fun hopening => hm ⟨hcolon, hopening⟩⟩

/-- A mistakable host can only be written in brackets. -/
theorem Spells.noClosing {written host : List Char} (h : Spells written host)
    (hm : IsMistakable host) : ']' ∉ host := by
  cases h with
  | plain _ noOpening => exact absurd hm.2 noOpening
  | bracketed noClosing => exact noClosing

/-- What begins with an opening bracket in front of its fields holds a closing one. -/
theorem Spells.closing_of_opening {written host told : List Char} (h : Spells written host)
    (hb : (written ++ ':' :: told).head? = some '[') : ']' ∈ written := by
  cases h with
  | plain _ noOpening =>
    cases written with
    | nil => simp at hb
    | cons c written => exact absurd hb noOpening
  | bracketed => simp

/-- A mistakable host is taken for a bracketed one, and without a closing bracket its end is
missing. -/
theorem ofToken_token_of_isMistakable {server : Server} (hm : IsMistakable server.host.toList)
    (hclosing : ']' ∉ server.host.toList) :
    ofToken server.token = .error (.malformed server.text) := by
  have hcut : hostAndFields? server.token = none := by
    rw [Option.eq_none_iff_forall_ne_some]
    rintro ⟨host, told⟩ h
    obtain ⟨written, hs, ht⟩ := spells_of_hostAndFields? h
    have hopening : server.token.head? = some '[' := by
      rw [token_eq, spelled, if_neg hm.1, List.head?_append, hm.2]
      rfl
    have hmem : ']' ∈ written := hs.closing_of_opening (ht ▸ hopening)
    have htoken : ']' ∈ server.token := by
      rw [ht]
      exact List.mem_append_left _ hmem
    rw [token_eq, spelled, if_neg hm.1, List.mem_append, List.mem_cons] at htoken
    rcases htoken with hmem | hmem | hmem
    · exact hclosing hmem
    · exact absurd hmem (by decide)
    · exact absurd (mem_fields hmem) (by decide)
  simp [ofToken, hcut, text]

/-- White space in a token is white space in the host. -/
theorem isUnbroken_token {server : Server} (h : Text.IsUnbroken server.host.toList) :
    Text.IsUnbroken server.token := by
  intro c hc
  rw [token_eq, List.mem_append, List.mem_cons] at hc
  rcases hc with hc | rfl | hc
  · unfold spelled at hc
    split at hc
    · simp only [List.mem_append, List.mem_cons, List.cons_append, List.not_mem_nil, or_false] at hc
      rcases hc with rfl | hc | rfl
      · decide
      · exact h c hc
      · decide
    · exact h c hc
  · decide
  · rcases mem_fields hc with rfl | hc
    · decide
    · exact Text.isBlank_of_isDigit hc

end Server

end SipOverRelay
