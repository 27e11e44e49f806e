import Mathlib.Data.List.Basic
import SipOverRelay.Proofs.Tokens

/-!
# Server lists through their text

A written list is read token by token, and a token whose host has white space falls to pieces, which
are read on their own. No piece brings such a host back, since a host that was read has no white
space. So a list that comes back has none, every token of it stands for itself, and the list comes
back exactly if each of its servers does.

A list that was read has hosts without white space to begin with. What it can lose on being written
and read again are the hosts that were bracketed without need and that begin with a bracket of their
own: they are written without brackets and then look like a bracketed host that never ends.
-/

namespace SipOverRelay.Server

/-- The server that a token names, if it names one. -/
def named? (token : List Char) : Option Server := (ofToken token).toOption

theorem named?_eq_some_iff {token : List Char} {server : Server} :
    named? token = some server ↔ ofToken token = .ok server := by
  unfold named?
  cases ofToken token <;> simp [Except.toOption]

/-- The servers of a list are those that its words name. -/
theorem listOfToken_eq (list : List Char) :
    listOfToken list = (Text.words list).filterMap named? := by
  rw [listOfToken, readEach, List.filterMap_map]
  refine List.filterMap_congr fun token _ => ?_
  rw [Function.comp_apply, named?]
  cases ofToken token <;> rfl

/-- A written list is read token by token. -/
theorem listOfToken_listToken (servers : List Server) :
    listOfToken (listToken servers) = servers.flatMap fun server => listOfToken server.token := by
  rw [listOfToken_eq, listToken, Text.words_intercalate, List.flatMap_map, List.filterMap_flatMap]
  simp only [listOfToken_eq]

/-- A token of one word is read as the server that it names. -/
theorem listOfToken_token {server : Server} (h : Text.IsUnbroken server.host.toList) :
    listOfToken server.token = (named? server.token).toList := by
  have hne : server.token ≠ [] := by simp [token_eq]
  rw [listOfToken_eq, Text.words_of_isUnbroken hne (isUnbroken_token h),
    List.filterMap_eq_flatMap_toList, List.flatMap_singleton]

/-- Tokens of one word each are read as the servers that they name. -/
theorem listOfToken_listToken_of_isUnbroken {servers : List Server}
    (h : ∀ server ∈ servers, Text.IsUnbroken server.host.toList) :
    listOfToken (listToken servers) = servers.filterMap fun server => named? server.token := by
  rw [listOfToken_listToken, List.filterMap_eq_flatMap_toList]
  exact List.flatMap_congr fun server hserver => listOfToken_token (h server hserver)

/-- A host that was read from a list is not empty, has no white space, and stood there in one of
the two ways to write it. -/
theorem spells_of_mem_listOfToken {list : List Char} {server : Server}
    (h : server ∈ listOfToken list) : server.host.toList ≠ [] ∧
      Text.IsUnbroken server.host.toList ∧ ∃ written, Spells written server.host.toList := by
  rw [listOfToken_eq, List.mem_filterMap] at h
  obtain ⟨token, hword, hnamed⟩ := h
  obtain ⟨hne, written, told, hs, ht, _⟩ := ofToken_eq_ok_iff.mp (named?_eq_some_iff.mp hnamed)
  have hunbroken := (Text.isUnbroken_of_mem_words hword).2
  refine ⟨hne, fun c hc => hunbroken c ?_, written, hs⟩
  rw [ht]
  exact List.mem_append_left _ (hs.subset hc)

/-- A host that lists keep. -/
structure IsLegible (host : List Char) : Prop where
  /-- There is a host. -/
  nonempty : host ≠ []
  /-- It has no white space. -/
  unbroken : Text.IsUnbroken host
  /-- Its end is marked. -/
  delimited : IsDelimited host

instance (host : List Char) : Decidable (IsLegible host) :=
  decidable_of_iff (host ≠ [] ∧ Text.IsUnbroken host ∧ IsDelimited host)
    ⟨fun ⟨nonempty, unbroken, delimited⟩ => ⟨nonempty, unbroken, delimited⟩,
      fun h => ⟨h.nonempty, h.unbroken, h.delimited⟩⟩

/-- If all hosts are legible, every token is read as the server that it was written for. -/
theorem listOfToken_listToken_of_isLegible {servers : List Server}
    (h : ∀ server ∈ servers, IsLegible server.host.toList) :
    listOfToken (listToken servers) = servers := by
  have hback : ∀ server ∈ servers, named? server.token = some server := fun server hserver =>
    named?_eq_some_iff.mpr
      (ofToken_token_iff.mpr ⟨(h server hserver).nonempty, (h server hserver).delimited⟩)
  rw [listOfToken_listToken_of_isUnbroken fun server hserver => (h server hserver).unbroken,
    List.filterMap_eq_map_iff_forall_eq_some.mpr hback]
  exact List.map_id servers

/-- If a list comes back, it was read. So no host in it is empty or has white space, no token fell
apart, and every one was read as the server that it was written for. -/
theorem isLegible_of_listOfToken_listToken {servers : List Server}
    (h : listOfToken (listToken servers) = servers) :
    ∀ server ∈ servers, IsLegible server.host.toList := by
  have hread : ∀ server ∈ servers, server ∈ listOfToken (listToken servers) := by
    rw [h]
    exact fun _ hserver => hserver
  have hunbroken : ∀ server ∈ servers, Text.IsUnbroken server.host.toList :=
    fun server hserver => (spells_of_mem_listOfToken (hread server hserver)).2.1
  rw [listOfToken_listToken_of_isUnbroken hunbroken] at h
  have hback : ∀ server ∈ servers, named? server.token = some server :=
    List.filterMap_eq_map_iff_forall_eq_some.mp (h.trans (List.map_id servers).symm)
  intro server hserver
  obtain ⟨hne, hdelimited⟩ :=
    ofToken_token_iff.mp (named?_eq_some_iff.mp (hback server hserver))
  exact ⟨hne, hunbroken server hserver, hdelimited⟩

theorem listOfToken_listToken_eq_self_iff {servers : List Server} :
    listOfToken (listToken servers) = servers ↔
      ∀ server ∈ servers, IsLegible server.host.toList :=
  ⟨isLegible_of_listOfToken_listToken, listOfToken_listToken_of_isLegible⟩

/-- What the reader makes of a written list, on strings. -/
theorem listOfText_listText (servers : List Server) :
    listOfText (listText servers) = listOfToken (listToken servers) := by
  rw [listOfText, listText, String.toList_ofList]

/-- A list of servers comes back from its text exactly if every host in it is legible. -/
theorem listOfText_listText_eq_self_iff (servers : List Server) :
    listOfText (listText servers) = servers ↔
      ∀ server ∈ servers, IsLegible server.host.toList := by
  rw [listOfText_listText, listOfToken_listToken_eq_self_iff]

/-- A server that was read is written so that it is read again, unless its host is mistakable. -/
theorem named?_token_of_spells {server : Server} (hne : server.host.toList ≠ [])
    {written : List Char} (hs : Spells written server.host.toList) :
    named? server.token =
      Option.guard (fun server => ¬IsMistakable server.host.toList) server := by
  by_cases hm : IsMistakable server.host.toList
  · rw [Option.guard, if_neg (by simpa using hm), named?,
      ofToken_token_of_isMistakable hm (hs.noClosing hm)]
    rfl
  · rw [Option.guard, if_pos (by simpa using hm), named?_eq_some_iff, ofToken_token_iff]
    exact ⟨hne, hs.isDelimited hm⟩

/-- Of the servers that were read from a text those with mistakable hosts are lost when the list is
written and read again, and all others stay as they are. -/
theorem listOfText_listText_of_read (text : String) :
    listOfText (listText (listOfText text)) =
      (listOfText text).filter fun server => ¬IsMistakable server.host.toList := by
  have hread (server) (hserver : server ∈ listOfText text) := spells_of_mem_listOfToken hserver
  rw [listOfText_listText, listOfToken_listToken_of_isUnbroken fun server hserver =>
    (hread server hserver).2.1, ← List.filterMap_eq_filter]
  refine List.filterMap_congr fun server hserver => ?_
  obtain ⟨hne, _, written, hs⟩ := hread server hserver
  exact named?_token_of_spells hne hs

/-- What is left of a list that was read comes back every time. -/
theorem isLegible_of_mem_rewritten {text : String} {server : Server}
    (h : server ∈ listOfText (listText (listOfText text))) : IsLegible server.host.toList := by
  rw [listOfText_listText_of_read, List.mem_filter] at h
  obtain ⟨hne, hunbroken, written, hs⟩ := spells_of_mem_listOfToken h.1
  exact ⟨hne, hunbroken, hs.isDelimited (by simpa using h.2)⟩

/-- A list that was read from a text, is written and read again loses the servers whose host has
no colon and begins with an opening bracket, and keeps all others as they are. -/
theorem listOfText_listText_listOfText (text : String) :
    listOfText (listText (listOfText text)) =
        (listOfText text).filter (fun server => ¬IsMistakable server.host.toList) ∧
      (listOfText (listText (listOfText text)) = listOfText text ↔
        ∀ server ∈ listOfText text, ¬IsMistakable server.host.toList) := by
  refine ⟨listOfText_listText_of_read text, ?_⟩
  rw [listOfText_listText_of_read, List.filter_eq_self]
  simp

/-- A host bracketed without need that begins with a bracket of its own is lost. -/
theorem needless_brackets_lose_server :
    listOfText "b:2 [[a]:1 c:3" = [⟨"b", 2, none⟩, ⟨"[a", 1, none⟩, ⟨"c", 3, none⟩] ∧
      listOfText (listText (listOfText "b:2 [[a]:1 c:3")) = [⟨"b", 2, none⟩, ⟨"c", 3, none⟩] := by
  decide

end SipOverRelay.Server
