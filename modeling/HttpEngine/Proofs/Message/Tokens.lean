import HttpEngine.Connection
import HttpEngine.Proofs.Text.Blank
import HttpEngine.Proofs.Text.Visible
import Mathlib.Logic.Relation

/-!
# Lists of tokens in header fields

A field that holds a list may be written in many ways: as several lines or as
one with commas, in another order, with empty elements or blanks between the
tokens, and in either letter case.  The fields that say what becomes of a
connection mean the same in all of them.
-/

namespace HttpEngine

/-! ## The tokens of a value -/

namespace Header

def comma : UInt8 := 44

/-- A space or a tab, the blanks among the visible bytes. -/
def IsPadding (byte : UInt8) : Prop := byte = 32 ∨ byte = 9

instance (byte : UInt8) : Decidable (IsPadding byte) :=
  inferInstanceAs (Decidable (_ ∨ _))

def IsText (value : Bytes) : Prop := value.all isVisibleByte = true

instance (value : Bytes) : Decidable (IsText value) :=
  inferInstanceAs (Decidable (_ = true))

def spelled (value : Bytes) : List Char :=
  value.map fun byte => Char.ofNat byte.toNat

/-- The elements of a value in lower case.  An empty element is an empty text,
which is no token. -/
def tokens (value : Bytes) : List (List Char) :=
  ((Text.lower (spelled value)).splitOn ',').map Text.trim

def joined (elements : List Bytes) : Bytes := [comma].intercalate elements

theorem comma_mem_spelled {value : Bytes} :
    ',' ∈ spelled value ↔ comma ∈ value := by
  constructor
  · intro hamong
    obtain ⟨byte, hpresent, hspells⟩ := List.mem_map.1 hamong
    have hpoint : byte.toNat = 44 := by
      rw [← toNat_ofNat_byte, hspells]
      rfl
    rwa [show byte = comma from UInt8.toNat_inj.1 hpoint] at hpresent
  · exact List.mem_map_of_mem (f := fun byte : UInt8 => Char.ofNat byte.toNat)

theorem comma_not_mem {padding : Bytes} (h : ∀ byte ∈ padding, IsPadding byte) :
    comma ∉ padding := fun hamong => absurd (h comma hamong) (by decide)

theorem isBlank_of_mem_spelled {padding : Bytes}
    (h : ∀ byte ∈ padding, IsPadding byte) :
    ∀ character ∈ spelled padding, Text.isBlank character = true := by
  intro character hamong
  obtain ⟨byte, hpresent, rfl⟩ := List.mem_map.1 hamong
  rcases h byte hpresent with rfl | rfl <;> decide

theorem isText_iff {value : Bytes} :
    IsText value ↔ IsVisible (spelled value) := by
  simp [IsText, isVisibleByte, IsVisible, IsVisibleChar, spelled,
    toNat_ofNat_byte]

theorem isText_of_isPadding {padding : Bytes}
    (h : ∀ byte ∈ padding, IsPadding byte) :
    IsText padding := by
  refine List.all_eq_true.2 fun byte hamong => ?_
  rcases h byte hamong with rfl | rfl <;> decide

theorem isText_append {first second : Bytes} :
    IsText (first ++ second) ↔ IsText first ∧ IsText second := by
  rw [IsText, List.all_append, Bool.and_eq_true, IsText, IsText]

theorem isText_join {first second : Bytes} :
    IsText (first ++ comma :: second) ↔ IsText first ∧ IsText second := by
  have hseparator : IsText [comma] := by decide
  rw [← List.singleton_append, isText_append, isText_append,
    and_iff_right hseparator]

theorem tokens_eq (value : Bytes) :
    tokens value = ((spelled value).splitOn ',').map fun element =>
      Text.lower (Text.trim element) := by
  rw [tokens, Text.splitOn_lower, List.map_map]
  exact List.map_congr_left fun element _ => Text.trim_lower element

theorem tokens_join (first second : Bytes) :
    tokens (first ++ comma :: second) = tokens first ++ tokens second := by
  rw [tokens_eq, spelled, List.map_append, List.map_cons]
  change List.map _ (List.splitOn ',' (_ ++ ',' :: _)) = _
  rw [List.splitOn_append_cons_self, List.map_append, ← spelled, ← spelled,
    ← tokens_eq, ← tokens_eq]

theorem tokens_element {element : Bytes} (hsingle : comma ∉ element) :
    tokens element = [Text.lower (Text.trim (spelled element))] := by
  rw [tokens_eq, List.splitOn_eq_singleton (mt comma_mem_spelled.1 hsingle),
    List.map_singleton]

theorem listsToken_iff {value : Bytes} (htext : IsText value) (token : String) :
    listsToken token value = true ↔ Text.lower token.toList ∈ tokens value := by
  have hspells : text? value = some (String.ofList (spelled value)) :=
    if_pos htext
  rw [listsToken, hspells, tokens_eq]
  simp [listElements, Text.sameLetters]

/-! ## Values that list the same -/

/-- One way to write a value anew. -/
inductive Respells : Bytes → Bytes → Prop
  | pad (before after : List Bytes) {element left right : Bytes}
      (hsingle : comma ∉ element) (hleftBlank : ∀ byte ∈ left, IsPadding byte)
      (hrightBlank : ∀ byte ∈ right, IsPadding byte) :
      Respells (joined (before ++ element :: after))
        (joined (before ++ (left ++ element ++ right) :: after))
  | insertEmpty (before after : List Bytes) :
      Respells (joined (before ++ after)) (joined (before ++ [] :: after))
  | recase {value recased : Bytes}
      (hsame : Text.sameLetters (spelled value) (spelled recased) = true) :
      Respells value recased

/-- Both are text or neither is, and they have the same tokens.  The tokens are
compared as a set: no answer depends on their order or number. -/
structure SameTokens (first second : List Bytes) : Prop where
  text : (∀ value ∈ first, IsText value) ↔ ∀ value ∈ second, IsText value
  listed : ∀ token, token ≠ [] →
    (token ∈ first.flatMap tokens ↔ token ∈ second.flatMap tokens)

namespace SameTokens

variable {first second third values others : List Bytes}

theorem refl (values : List Bytes) : SameTokens values values :=
  ⟨.rfl, fun _ _ => .rfl⟩

theorem symm (hsame : SameTokens first second) : SameTokens second first :=
  ⟨hsame.text.symm, fun token hfilled => (hsame.listed token hfilled).symm⟩

theorem trans (hsame : SameTokens first second)
    (hnext : SameTokens second third) :
    SameTokens first third :=
  ⟨hsame.text.trans hnext.text,
    fun token hfilled =>
      (hsame.listed token hfilled).trans (hnext.listed token hfilled)⟩

theorem append (hsame : SameTokens first second)
    (halso : SameTokens values others) :
    SameTokens (first ++ values) (second ++ others) where
  text := by
    rw [List.forall_mem_append, List.forall_mem_append, hsame.text, halso.text]
  listed token hfilled := by
    rw [List.flatMap_append, List.flatMap_append, List.mem_append,
      List.mem_append, hsame.listed token hfilled, halso.listed token hfilled]

theorem of_perm (hperm : first.Perm second) : SameTokens first second where
  text := forall_congr' fun _ => imp_congr_left hperm.mem_iff
  listed _ _ := (hperm.flatMap_right tokens).mem_iff

theorem join (first second : Bytes) :
    SameTokens [first, second] [first ++ comma :: second] where
  text := by simp [isText_join]
  listed token hfilled := by simp [tokens_join]

theorem empty : SameTokens [] [[]] where
  text := by simp [IsText]
  listed token hfilled := by
    simp [tokens, spelled, Text.lower, Text.trim, hfilled]

theorem pad {element left right : Bytes} (hsingle : comma ∉ element)
    (hleftBlank : ∀ byte ∈ left, IsPadding byte)
    (hrightBlank : ∀ byte ∈ right, IsPadding byte) :
    SameTokens [element] [left ++ element ++ right] where
  text := by
    simp [isText_append, isText_of_isPadding hleftBlank,
      isText_of_isPadding hrightBlank]
  listed token _ := by
    have hstillSingle : comma ∉ left ++ element ++ right := by
      simp only [List.mem_append, not_or]
      exact ⟨⟨comma_not_mem hleftBlank, hsingle⟩, comma_not_mem hrightBlank⟩
    have htrimmed : Text.trim (spelled (left ++ element ++ right)) =
        Text.trim (spelled element) := by
      rw [spelled, List.map_append, List.map_append]
      exact Text.trim_pad (isBlank_of_mem_spelled hleftBlank)
        (isBlank_of_mem_spelled hrightBlank) _
    rw [List.flatMap_singleton, List.flatMap_singleton, tokens_element hsingle,
      tokens_element hstillSingle, htrimmed]

theorem recase {value recased : Bytes}
    (hsame : Text.sameLetters (spelled value) (spelled recased) = true) :
    SameTokens [value] [recased] := by
  have hlowered : Text.lower (spelled value) = Text.lower (spelled recased) :=
    beq_iff_eq.1 hsame
  have hlisted : tokens value = tokens recased := by
    rw [tokens, hlowered, tokens]
  refine ⟨?_, fun token _ => by
    rw [List.flatMap_singleton, List.flatMap_singleton, hlisted]⟩
  rw [List.forall_mem_singleton, List.forall_mem_singleton, isText_iff,
    isText_iff, ← IsVisible.lower_iff, hlowered, IsVisible.lower_iff]

/-- The elements of a value could as well stand on lines of their own. -/
theorem joined (elements : List Bytes) :
    SameTokens [joined elements] elements := by
  induction elements with
  | nil => exact empty.symm
  | cons element elements ih =>
      cases elements with
      | nil =>
          rw [Header.joined, List.intercalate_singleton]
          exact refl [element]
      | cons next rest =>
          have hcut : Header.joined (element :: next :: rest) =
              element ++ comma :: Header.joined (next :: rest) := by
            rw [Header.joined, List.intercalate_cons_cons, List.append_assoc]
            rfl
          rw [hcut]
          exact (join element _).symm.trans ((refl [element]).append ih)

theorem of_respells {value respelt : Bytes}
    (hrespells : Respells value respelt) :
    SameTokens [value] [respelt] := by
  cases hrespells with
  | pad before after hsingle hleftBlank hrightBlank =>
      have hpadded := (pad hsingle hleftBlank hrightBlank).append (refl after)
      exact (joined _).trans
        (((refl before).append hpadded).trans (joined _).symm)
  | insertEmpty before after =>
      have hinserted := empty.append (refl after)
      exact (joined _).trans
        (((refl before).append hinserted).trans (joined _).symm)
  | recase hsame => exact recase hsame

end SameTokens

end Header

/-! ## Maps that list the same -/

namespace HeaderMap

variable {first second third : HeaderMap} {name : String}

def listFields : List String := ["connection", "upgrade"]

/-- One way to write the fields anew.  Lines of a list move freely, and any line
moves past one of another name. -/
inductive Rewrites : HeaderMap → HeaderMap → Prop
  | respell {name : String} (hlist : name ∈ listFields) {value respelt : Bytes}
      (hrespells : Header.Respells value respelt) :
      Rewrites ⟨[(name, value)]⟩ ⟨[(name, respelt)]⟩
  | emptyLine {name : String} (hlist : name ∈ listFields) :
      Rewrites ⟨[]⟩ ⟨[(name, [])]⟩
  | join {name : String} (hlist : name ∈ listFields) (value next : Bytes) :
      Rewrites ⟨[(name, value), (name, next)]⟩
        ⟨[(name, value ++ Header.comma :: next)]⟩
  | swap {field next : String × Bytes}
      (hfree : field.1 ∈ listFields ∨ field.1 ≠ next.1) :
      Rewrites ⟨[field, next]⟩ ⟨[next, field]⟩
  | within (before after : List (String × Bytes))
      {fields rewritten : List (String × Bytes)}
      (hrewrites : Rewrites ⟨fields⟩ ⟨rewritten⟩) :
      Rewrites ⟨before ++ fields ++ after⟩ ⟨before ++ rewritten ++ after⟩

theorem getAll_append (fields rest : List (String × Bytes)) (name : String) :
    (⟨fields ++ rest⟩ : HeaderMap).getAll name =
      (⟨fields⟩ : HeaderMap).getAll name ++
        (⟨rest⟩ : HeaderMap).getAll name := by
  rw [getAll, List.filter_append, List.map_append, getAll, getAll]

theorem getAll_pair (field next : String × Bytes) (name : String) :
    (⟨[field, next]⟩ : HeaderMap).getAll name =
      (⟨[field]⟩ : HeaderMap).getAll name ++
        (⟨[next]⟩ : HeaderMap).getAll name :=
  getAll_append [field] [next] name

theorem getAll_of_eq {field : String × Bytes}
    (hsame : field.1 = Header.normalizeName name) :
    (⟨[field]⟩ : HeaderMap).getAll name = [field.2] := by
  simp [getAll, hsame]

theorem getAll_of_ne {field : String × Bytes}
    (hother : field.1 ≠ Header.normalizeName name) :
    (⟨[field]⟩ : HeaderMap).getAll name = [] := by
  simp [getAll, hother]

/-- The values of a name list the same in both maps, and they are the same
unless the name is that of a list. -/
structure Agrees (first second : HeaderMap) (name : String) : Prop where
  sameTokens : Header.SameTokens (first.getAll name) (second.getAll name)
  unlisted : Header.normalizeName name ∉ listFields →
    first.getAll name = second.getAll name

namespace Agrees

theorem of_eq (hsame : first.getAll name = second.getAll name) :
    Agrees first second name :=
  ⟨hsame ▸ .refl _, fun _ => hsame⟩

theorem of_list (hlist : Header.normalizeName name ∈ listFields)
    (hsame : Header.SameTokens (first.getAll name) (second.getAll name)) :
    Agrees first second name :=
  ⟨hsame, fun hunlisted => absurd hlist hunlisted⟩

theorem symm (hagrees : Agrees first second name) : Agrees second first name :=
  ⟨hagrees.sameTokens.symm, fun hunlisted => (hagrees.unlisted hunlisted).symm⟩

theorem trans (hagrees : Agrees first second name)
    (hnext : Agrees second third name) :
    Agrees first third name :=
  ⟨hagrees.sameTokens.trans hnext.sameTokens,
    fun hunlisted =>
      (hagrees.unlisted hunlisted).trans (hnext.unlisted hunlisted)⟩

theorem within (before after : List (String × Bytes))
    {fields rewritten : List (String × Bytes)}
    (hagrees : Agrees ⟨fields⟩ ⟨rewritten⟩ name) :
    Agrees ⟨before ++ fields ++ after⟩ ⟨before ++ rewritten ++ after⟩ name where
  sameTokens := by
    simp only [getAll_append]
    exact ((Header.SameTokens.refl _).append hagrees.sameTokens).append
      (.refl _)
  unlisted hunlisted := by
    simp only [getAll_append]
    rw [hagrees.unlisted hunlisted]

theorem of_rewrites (hrewrites : Rewrites first second) (name : String) :
    Agrees first second name := by
  induction hrewrites with
  | @respell field hlist value respelt hrespells =>
      by_cases hsame : field = Header.normalizeName name
      · refine of_list (hsame ▸ hlist) ?_
        rw [getAll_of_eq hsame, getAll_of_eq hsame]
        exact .of_respells hrespells
      · exact of_eq (by rw [getAll_of_ne hsame, getAll_of_ne hsame])
  | @emptyLine field hlist =>
      by_cases hsame : field = Header.normalizeName name
      · refine of_list (hsame ▸ hlist) ?_
        rw [getAll_of_eq hsame]
        exact .empty
      · refine of_eq ?_
        rw [getAll_of_ne hsame]
        rfl
  | @join field hlist value next =>
      by_cases hsame : field = Header.normalizeName name
      · refine of_list (hsame ▸ hlist) ?_
        rw [getAll_pair, getAll_of_eq hsame, getAll_of_eq hsame,
          getAll_of_eq hsame]
        exact .join value next
      · refine of_eq ?_
        rw [getAll_pair, getAll_of_ne hsame, getAll_of_ne hsame,
          getAll_of_ne hsame, List.append_nil]
  | @swap field next hfree =>
      -- only two lines of one list change places within the values of a name
      by_cases hsame : field.1 = Header.normalizeName name
      · rcases hfree with hlist | hother
        · refine of_list (hsame ▸ hlist) ?_
          rw [getAll_pair, getAll_pair]
          exact .of_perm List.perm_append_comm
        · refine of_eq ?_
          rw [getAll_pair, getAll_pair,
            @getAll_of_ne name next (hsame ▸ hother.symm),
            List.append_nil, List.nil_append]
      · refine of_eq ?_
        rw [getAll_pair, getAll_pair, getAll_of_ne hsame, List.append_nil,
          List.nil_append]
  | within before after _ hagrees => exact hagrees.within before after

theorem of_eqvGen (hchain : Relation.EqvGen Rewrites first second)
    (name : String) :
    Agrees first second name := by
  induction hchain with
  | rel first second hrewrites => exact of_rewrites hrewrites name
  | refl => exact of_eq rfl
  | symm _ _ _ hagrees => exact hagrees.symm
  | trans _ _ _ _ _ hagrees hnext => exact hagrees.trans hnext

end Agrees

def ListsAreText (headers : HeaderMap) : Prop :=
  ∀ name ∈ listFields, ∀ value ∈ headers.getAll name, Header.IsText value

instance (headers : HeaderMap) : Decidable headers.ListsAreText :=
  inferInstanceAs (Decidable (∀ name ∈ listFields,
    ∀ value ∈ headers.getAll name, _))

/-! ## What the lists say -/

/-- Some value of the name lists the token, in either letter case. -/
def Lists (headers : HeaderMap) (name token : String) : Prop :=
  Text.lower token.toList ∈ (headers.getAll name).flatMap Header.tokens

theorem hasToken_iff {headers : HeaderMap}
    (htext : ∀ value ∈ headers.getAll name, Header.IsText value)
    (token : String) :
    headers.hasToken name token = true ↔ headers.Lists name token := by
  rw [hasToken, List.any_eq_true, Lists, List.mem_flatMap]
  exact exists_congr fun value => and_congr_right fun hamong =>
    Header.listsToken_iff (htext value hamong) token

theorem keepsAlive_iff {headers : HeaderMap} (htext : headers.ListsAreText)
    (version : Version) :
    RequestHead.keepsAlive version headers = true ↔
      if version = .http10 then headers.Lists "connection" "keep-alive"
      else ¬ headers.Lists "connection" "close" := by
  have hconnection := htext "connection" (by decide)
  cases version with
  | http10 => exact hasToken_iff hconnection "keep-alive"
  | _ =>
      rw [if_neg (by decide), ← hasToken_iff hconnection]
      simp [RequestHead.keepsAlive]

theorem handshake_eq_ok_iff {headers : HeaderMap} (htext : headers.ListsAreText)
    (accept : String) :
    WebSocket.handshake headers = .ok accept ↔
      headers.Lists "upgrade" "websocket" ∧
      headers.Lists "connection" "upgrade" ∧
        headers.get? "sec-websocket-version" = some (Utf8.ofString "13") ∧
          ∃ key, headers.get? "sec-websocket-key" = some key ∧
            accept = WebSocket.acceptKey key := by
  rw [← hasToken_iff (htext "upgrade" (by decide)),
    ← hasToken_iff (htext "connection" (by decide)), WebSocket.handshake]
  split
  · next hrefused =>
      refine iff_of_false nofun ?_
      rintro ⟨hprotocol, hwanted, -⟩
      simp [hprotocol, hwanted] at hrefused
  · next hasked =>
      have hasked : headers.hasToken "upgrade" "websocket" = true ∧
          headers.hasToken "connection" "upgrade" = true := by
        simpa using hasked
      rw [and_iff_right hasked.1, and_iff_right hasked.2]
      cases headers.get? "sec-websocket-key" with
      | none => simp
      | some key =>
          by_cases hspoken :
            headers.get? "sec-websocket-version" = some (Utf8.ofString "13")
          · simp [hspoken, eq_comm]
          · simp [hspoken]

theorem hasToken_eq (hagrees : Agrees first second name)
    (htext : ∀ value ∈ first.getAll name, Header.IsText value) {token : String}
    (hfilled : Text.lower token.toList ≠ []) :
    first.hasToken name token = second.hasToken name token := by
  rw [Bool.eq_iff_iff, hasToken_iff htext,
    hasToken_iff (hagrees.sameTokens.text.1 htext)]
  exact hagrees.sameTokens.listed _ hfilled

theorem get?_eq (hagrees : Agrees first second name)
    (hunlisted : Header.normalizeName name ∉ listFields) :
    first.get? name = second.get? name := by
  rw [get?, get?, hagrees.unlisted hunlisted]

theorem keepsAlive_eq (hagrees : ∀ name, Agrees first second name)
    (htext : first.ListsAreText) (version : Version) :
    RequestHead.keepsAlive version first =
      RequestHead.keepsAlive version second := by
  have hconnection (token : String) (hfilled : Text.lower token.toList ≠ []) :
      first.hasToken "connection" token = second.hasToken "connection" token :=
    hasToken_eq (hagrees "connection") (htext "connection" (by decide)) hfilled
  have hkeepAlive := hconnection "keep-alive" (by decide)
  have hclose := hconnection "close" (by decide)
  simp only [RequestHead.keepsAlive, hkeepAlive, hclose]

theorem handshake_eq (hagrees : ∀ name, Agrees first second name)
    (htext : first.ListsAreText) :
    WebSocket.handshake first = WebSocket.handshake second := by
  have hprotocol : first.hasToken "upgrade" "websocket" =
      second.hasToken "upgrade" "websocket" :=
    hasToken_eq (hagrees "upgrade") (htext "upgrade" (by decide)) (by decide)
  have hwanted : first.hasToken "connection" "upgrade" =
      second.hasToken "connection" "upgrade" :=
    hasToken_eq (hagrees "connection") (htext "connection" (by decide))
      (by decide)
  have hkey :
      first.get? "sec-websocket-key" = second.get? "sec-websocket-key" :=
    get?_eq (hagrees "sec-websocket-key") (by decide +kernel)
  have hspoken :
      first.get? "sec-websocket-version" =
        second.get? "sec-websocket-version" :=
    get?_eq (hagrees "sec-websocket-version") (by decide +kernel)
  rw [WebSocket.handshake, WebSocket.handshake, hprotocol, hwanted,
    hkey, hspoken]

/-- However the lists are written, a connection is kept and a handshake is
answered alike, as the tokens say.  A chain takes each way of rewriting in both
directions, so a line may be split at a comma as well. -/
theorem answers_eq_of_eqvGen {first second : HeaderMap}
    (htext : first.ListsAreText)
    (hchain : Relation.EqvGen Rewrites first second) :
    (∀ version, RequestHead.keepsAlive version first =
      RequestHead.keepsAlive version second) ∧
      WebSocket.handshake first = WebSocket.handshake second ∧
      (∀ version, RequestHead.keepsAlive version second = true ↔
        if version = .http10 then first.Lists "connection" "keep-alive"
        else ¬ first.Lists "connection" "close") ∧
      ∀ accept, WebSocket.handshake second = .ok accept ↔
        first.Lists "upgrade" "websocket" ∧ first.Lists "connection" "upgrade" ∧
          first.get? "sec-websocket-version" = some (Utf8.ofString "13") ∧
            ∃ key, first.get? "sec-websocket-key" = some key ∧
              accept = WebSocket.acceptKey key := by
  have hagrees := Agrees.of_eqvGen hchain
  refine ⟨keepsAlive_eq hagrees htext, handshake_eq hagrees htext,
    fun version => ?_, fun accept => ?_⟩
  · rw [← keepsAlive_eq hagrees htext]
    exact keepsAlive_iff htext version
  · rw [← handshake_eq hagrees htext]
    exact handshake_eq_ok_iff htext accept

/-- The head of a handshake, with fields in front that may be written in several
ways. -/
def handshakeHead (fields : List (String × Bytes)) : HeaderMap :=
  ⟨fields ++ [("sec-websocket-key", Utf8.ofString "key"),
    ("upgrade", Utf8.ofString "websocket"),
    ("sec-websocket-version", Utf8.ofString "13")]⟩

/-- Two lines are joined, a token changes its case, and the line gets a blank
and an empty element. -/
theorem answers_eq_of_eqvGen_joined :
    RequestHead.keepsAlive .http10
        (handshakeHead [("connection", Utf8.ofString ",keep-alive, UPGRADE")]) =
          true ∧
      WebSocket.handshake
          (handshakeHead
            [("connection", Utf8.ofString ",keep-alive, UPGRADE")]) =
        .ok (WebSocket.acceptKey (Utf8.ofString "key")) := by
  have hlist : "connection" ∈ listFields := by decide
  have hstep {fields rewritten : List (String × Bytes)}
      (hrewrites : Rewrites ⟨fields⟩ ⟨rewritten⟩) :
      Relation.EqvGen Rewrites (handshakeHead fields)
        (handshakeHead rewritten) :=
    .rel _ _ (.within [] _ hrewrites)
  have hjoining :=
    hstep (.join hlist (Utf8.ofString "keep-alive") (Utf8.ofString "Upgrade"))
  have hrecasing : Header.Respells (Utf8.ofString "keep-alive,Upgrade")
      (Utf8.ofString "keep-alive,UPGRADE") :=
    .recase (by decide +kernel)
  have hpadding : Header.Respells (Utf8.ofString "keep-alive,UPGRADE")
      (Utf8.ofString "keep-alive, UPGRADE") :=
    @Header.Respells.pad [Utf8.ofString "keep-alive"] []
      (Utf8.ofString "UPGRADE") [32] []
      (by decide +kernel) (by simp [Header.IsPadding]) (by simp)
  have hinserting : Header.Respells (Utf8.ofString "keep-alive, UPGRADE")
      (Utf8.ofString ",keep-alive, UPGRADE") :=
    .insertEmpty [] [Utf8.ofString "keep-alive", Utf8.ofString " UPGRADE"]
  have hrespelling := (hstep (.respell hlist hrecasing)).trans _ _ _
    ((hstep (.respell hlist hpadding)).trans _ _ _
      (hstep (.respell hlist hinserting)))
  obtain ⟨halive, hanswer, -⟩ := answers_eq_of_eqvGen (by decide +kernel)
    (hjoining.trans _ _ _ hrespelling)
  exact ⟨(halive .http10).symm.trans (by decide +kernel),
    hanswer.symm.trans (by rfl)⟩

/-- A byte that is not visible hides the tokens of its line, and those of a line
joined to it. -/
example :
    RequestHead.keepsAlive .http11
        ⟨[("connection", Utf8.ofString "close"), ("connection", [233])]⟩ =
          false ∧
      RequestHead.keepsAlive .http11
        ⟨[("connection", Utf8.ofString "close" ++ [44, 233])]⟩ = true := by
  decide +kernel

end HeaderMap

end HttpEngine
