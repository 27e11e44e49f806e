import SipOverRelay.Error
import SipOverRelay.Server.Basic

/-!
# Reading server tokens

A token is `host:port` or `host:port:reflectorPort:delay`. A host in square brackets may contain
colons, one without brackets ends at the first colon. The checks have a fixed order, which decides
the error when a token has several faults: delimiters of the host, emptiness of the host, number of
fields, delay, port, reflector port.
-/

namespace SipOverRelay.Server

/-- The text before and after the first occurrence of a character. -/
def cutAt? (d : Char) : List Char → Option (List Char × List Char)
  | [] => none
  | c :: cs =>
    if c = d then some ([], cs) else (cutAt? d cs).map fun (front, back) => (c :: front, back)

/-- A text is cut where the character occurs first. -/
theorem cutAt?_eq_some_iff {d : Char} {text front back : List Char} :
    cutAt? d text = some (front, back) ↔ d ∉ front ∧ text = front ++ d :: back := by
  induction text generalizing front with
  | nil => simp [cutAt?]
  | cons c text ih =>
    by_cases hc : c = d
    · rw [cutAt?, if_pos hc, hc]
      cases front with
      | nil => simp
      | cons first front =>
        -- A front part that begins like the text would begin with `d`.
        refine ⟨fun h => (nomatch h), fun ⟨hd, h⟩ => ?_⟩
        rw [List.cons_append, List.cons.injEq] at h
        exact absurd (h.1 ▸ List.mem_cons_self) hd
    · rw [cutAt?, if_neg hc]
      cases front with
      | nil => simp [hc]
      | cons first front =>
        rw [Option.map_eq_some_iff, List.cons_append, List.cons.injEq, List.mem_cons, not_or]
        constructor
        · rintro ⟨⟨front, back⟩, hcut, he⟩
          cases he
          obtain ⟨hd, ht⟩ := ih.mp hcut
          exact ⟨⟨Ne.symm hc, hd⟩, rfl, ht⟩
        · rintro ⟨⟨_, hd⟩, rfl, ht⟩
          exact ⟨(front, back), ih.mpr ⟨hd, ht⟩, rfl⟩

/-- The host of a token and the fields behind it, or nothing if the delimiters do not fit. -/
def hostAndFields? : List Char → Option (List Char × List Char)
  | '[' :: bracketed =>
    match cutAt? ']' bracketed with
    | some (host, ':' :: fields) => some (host, fields)
    | _ => none
  | token => cutAt? ':' token

/-- A port field. -/
def readPort (field : List Char) : Except ServerError UInt16 :=
  match Text.port? field with
  | some port => .ok port
  | none => .error (.badPort (String.ofList field))

/-- Reads one token. -/
def ofToken (token : List Char) : Except ServerError Server :=
  match hostAndFields? token with
  | none => .error (.malformed (String.ofList token))
  | some (host, fields) =>
    if host = [] then
      .error .emptyHost
    else
      match fields.splitOn ':' with
      | [port] => do
        let port ← readPort port
        return { host := String.ofList host, port }
      | [port, reflectorPort, delay] =>
        match Text.word? delay with
        | none => .error (.malformed (String.ofList token))
        | some delay => do
          let port ← readPort port
          let reflectorPort ← readPort reflectorPort
          return { host := String.ofList host, port, reflector := some ⟨reflectorPort, delay⟩ }
      | _ => .error (.malformed (String.ofList token))

/-- Reads one token given as a string. -/
def ofText (token : String) : Except ServerError Server := ofToken token.toList

end SipOverRelay.Server
