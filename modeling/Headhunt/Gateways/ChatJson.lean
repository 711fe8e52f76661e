import Headhunt.Gateways.BraceScanner
import Headhunt.Lib.Substring

/-! `_parse_chat_completion_json_text`: the object in the answer of a chat model, bare, between
code fences or within other text. -/
namespace Headhunt.Gateways
open Py

/-- An `LLMGatewayError`, or the plain `ValueError` of an integer with too many digits. -/
inductive JsonTextError
  | gateway (message : String)
  | value
deriving DecidableEq

def parseJsonObject (text : String) : Except JsonTextError Dict :=
  match loads text with
  | .ok (.obj parsed) => .ok parsed
  | .ok _ => .error (.gateway "LLM structured output must be a JSON object")
  | .error .decode => .error (.gateway "LLM structured output is not valid JSON")
  | .error .value => .error .value

/-- ``text.split("```")``, `part` the characters since the last fence in reverse. -/
def splitFences (part : List Char) : List Char → List (List Char)
  | '\x60' :: '\x60' :: '\x60' :: text => part.reverse :: splitFences [] text
  | c :: text => splitFences (c :: part) text
  | [] => [part.reverse]

def everySecond : List (List Char) → List (List Char)
  | _ :: part :: parts => part :: everySecond parts
  | _ => []

def fenceBlock (part : List Char) : String :=
  let block := strip (String.ofList part)
  if "json".toList.isPrefixOf (lower block).toList then
    strip (String.ofList (block.toList.drop 4))
  else block

def jsonFenceCandidates (text : String) : List String :=
  if contains text "```" then (everySecond (splitFences [] text.toList)).map fenceBlock else []

/-- The first candidate that is an object; the errors of the gateway are skipped. -/
def firstObject : List String → Except JsonTextError Dict
  | [] => .error (.gateway "LLM structured output is not valid JSON")
  | candidate :: candidates =>
    if candidate = "" then firstObject candidates
    else
      match parseJsonObject candidate with
      | .error (.gateway _) => firstObject candidates
      | result => result

def parseChatCompletionJsonText (text : String) : Except JsonTextError Dict :=
  let stripped := strip text
  let embedded := (extractFirstJsonObjectText stripped).filter (· ≠ "")
  firstObject (stripped :: jsonFenceCandidates stripped ++ embedded.toList)

/-- The candidate ends the search: it is an object, or raises. -/
def Decides (candidate : String) : Prop :=
  (∃ parsed, loads candidate = .ok (.obj parsed)) ∨ loads candidate = .error .value

theorem firstObject_of_decides {candidate : String} (h : Decides candidate)
    (candidates : List String) :
    firstObject (candidate :: candidates) = parseJsonObject candidate := by
  have hne : candidate ≠ "" := by
    rintro rfl
    have hload : loads "" = .error .decode := by decide +kernel
    rcases h with ⟨parsed, h⟩ | h
    · rw [hload] at h
      cases h
    · rw [hload] at h
      cases h
  rw [firstObject, if_neg hne]
  rcases h with ⟨parsed, h⟩ | h
  · simp only [parseJsonObject, h]
  · simp only [parseJsonObject, h]

theorem firstObject_skip {candidate : String} (h : ¬Decides candidate)
    (candidates : List String) :
    firstObject (candidate :: candidates) = firstObject candidates := by
  rw [firstObject]
  split_ifs with hempty
  · rfl
  · unfold Decides at h
    unfold parseJsonObject
    cases hload : loads candidate with
    | ok v =>
      cases v with
      | obj parsed => exact (h (.inl ⟨parsed, hload⟩)).elim
      | _ => rfl
    | error exc =>
      cases exc with
      | decode => rfl
      | value => exact (h (.inr hload)).elim

theorem firstObject_append {earlier : List String} (h : ∀ c ∈ earlier, ¬Decides c)
    (candidates : List String) :
    firstObject (earlier ++ candidates) = firstObject candidates := by
  induction earlier with
  | nil => rfl
  | cons c earlier ih =>
    rw [List.cons_append, firstObject_skip (h c List.mem_cons_self),
      ih fun d hd => h d (List.mem_cons_of_mem _ hd)]

theorem parseJsonObject_eq_ok {text : String} {o : Dict} :
    parseJsonObject text = .ok o ↔ loads text = .ok (.obj o) := by
  unfold parseJsonObject
  split
  all_goals simp_all

/-- Either no candidate decides or there is a first one. -/
theorem exists_first_decides (candidates : List String) :
    (∀ c ∈ candidates, ¬Decides c) ∨
    ∃ earlier block later, candidates = earlier ++ block :: later ∧
      (∀ c ∈ earlier, ¬Decides c) ∧ Decides block := by
  induction candidates with
  | nil => exact .inl nofun
  | cons c candidates ih =>
    by_cases hc : Decides c
    · exact .inr ⟨[], c, candidates, rfl, nofun, hc⟩
    · rcases ih with hnone | ⟨earlier, block, later, rfl, hearlier, hblock⟩
      · exact .inl (List.forall_mem_cons.mpr ⟨hc, hnone⟩)
      · exact .inr ⟨c :: earlier, block, later, rfl,
          List.forall_mem_cons.mpr ⟨hc, hearlier⟩, hblock⟩

/-- The text around an object holds no brace that could belong to it, and no fence. -/
structure Wrapping (before after : String) : Prop where
  beforeOpen : '\x7b' ∉ before.toList
  beforeFence : '\x60' ∉ before.toList
  afterOpen : '\x7b' ∉ after.toList
  afterClose : '\x7d' ∉ after.toList
  afterFence : '\x60' ∉ after.toList

def Spaces (text : String) : Prop := ∀ c ∈ text.toList, isSpace c

/-- Only the text around an object is stripped. -/
theorem toList_strip_wrapped {before s after : String} (hs : ObjectText s) :
    (strip (before ++ s ++ after)).toList =
      before.toList.dropWhile isSpace ++ s.toList ++
        (after.toList.reverse.dropWhile isSpace).reverse := by
  obtain ⟨cs, _, htext⟩ := hs
  have hopen : isSpace '\x7b' = false := by decide
  have hclose : isSpace '\x7d' = false := by decide
  have hreverse : (cs ++ '\x7d' :: after.toList).reverse =
      after.toList.reverse ++ '\x7d' :: cs.reverse := by simp
  rw [strip, String.toList_ofList, String.toList_append, String.toList_append, htext,
    List.append_assoc, List.cons_append, List.append_assoc, List.singleton_append,
    stripChars_around hopen, hreverse, List.dropWhile_append_stop hclose]
  simp

theorem isSpace_of_isJsonSpace {c : Char} (h : isJsonSpace c) : isSpace c := by
  simp only [isJsonSpace, Bool.or_eq_true, beq_iff_eq] at h
  rcases h with ((rfl | rfl) | rfl) | rfl <;> decide

theorem head_dropWhile {f : Char → Bool} {cs ds : List Char} {c : Char}
    (h : cs.dropWhile f = c :: ds) : f c = false := by
  have hhead := List.head?_dropWhile_not f cs
  rw [h] at hhead
  simpa using hhead

theorem mem_of_dropWhile {f : Char → Bool} {cs ds : List Char} {c : Char}
    (h : cs.dropWhile f = c :: ds) : c ∈ cs := by
  have hmem : c ∈ cs.dropWhile f := h ▸ List.mem_cons_self
  exact (List.dropWhile_suffix f).subset hmem

/-- A text that begins with no white space, and is an object, begins with a brace. -/
theorem head_of_object {blank cs rest : List Char} {c : Char} (hblank : Blank blank)
    (hc : isSpace c = false) {d : Char} (h : c :: cs = blank ++ d :: rest) : c = d := by
  cases blank with
  | nil => exact (List.cons.inj h).1
  | cons e blank =>
    obtain ⟨rfl, _⟩ := List.cons.inj h
    have hspace := isSpace_of_isJsonSpace (hblank c List.mem_cons_self)
    rw [hc] at hspace
    cases hspace

/-- The stripped text is an object only when there is nothing else in it. -/
theorem spaces_of_loads {before s after : String} {parsed : Dict} (hw : Wrapping before after)
    (hs : ObjectText s) (h : loads (strip (before ++ s ++ after)) = .ok (.obj parsed)) :
    Spaces before ∧ Spaces after := by
  obtain ⟨blank, core, blank', hblank, hblank', ⟨body, _, hcore⟩, htext⟩ := objectText_of_loads h
  rw [toList_strip_wrapped hs, hcore] at htext
  constructor
  · cases hfirst : before.toList.dropWhile isSpace with
    | nil => exact List.dropWhile_eq_nil_iff.mp hfirst
    | cons c cs =>
      rw [hfirst] at htext
      simp only [List.cons_append, List.append_assoc] at htext
      have hbrace := head_of_object hblank (head_dropWhile hfirst) htext
      exact (hw.beforeOpen (hbrace ▸ mem_of_dropWhile hfirst)).elim
  · cases hlast : after.toList.reverse.dropWhile isSpace with
    | nil =>
      intro c hc
      exact List.dropWhile_eq_nil_iff.mp hlast c (List.mem_reverse.mpr hc)
    | cons c cs =>
      have hreversed := congrArg List.reverse htext
      rw [hlast] at hreversed
      simp only [List.reverse_append, List.reverse_reverse, List.reverse_cons, List.cons_append,
        List.append_assoc, List.nil_append] at hreversed
      have hback : Blank blank'.reverse := fun d hd => hblank' d (List.mem_reverse.mp hd)
      have hbrace := head_of_object hback (head_dropWhile hlast) hreversed
      exact (hw.afterClose (hbrace ▸ List.mem_reverse.mp (mem_of_dropWhile hlast))).elim

theorem strip_spaces {before s after : String} (hs : ObjectText s) (hbefore : Spaces before)
    (hafter : Spaces after) : strip (before ++ s ++ after) = s := by
  have hback : ∀ c ∈ after.toList.reverse, isSpace c := fun c hc =>
    hafter c (List.mem_reverse.mp hc)
  rw [← String.toList_inj, toList_strip_wrapped hs, List.dropWhile_eq_nil_iff.mpr hbefore,
    List.dropWhile_eq_nil_iff.mpr hback]
  simp

/-- The scanner finds the object in the stripped text. -/
theorem extractFirst_strip {before s after : String} (hw : Wrapping before after)
    (hs : ObjectText s) : extractFirstJsonObjectText (strip (before ++ s ++ after)) = some s := by
  have hbrace : '\x7b' ∉ (String.ofList (before.toList.dropWhile isSpace)).toList := by
    rw [String.toList_ofList]
    intro hmem
    exact hw.beforeOpen ((List.dropWhile_suffix _).subset hmem)
  have htext : strip (before ++ s ++ after) =
      String.ofList (before.toList.dropWhile isSpace) ++ s ++
        String.ofList (after.toList.reverse.dropWhile isSpace).reverse := by
    rw [← String.toList_inj, toList_strip_wrapped hs, String.toList_append, String.toList_append,
      String.toList_ofList, String.toList_ofList]
  rw [htext, extractFirst_object hbrace hs]

/-- An object is found in whatever text it is wrapped. -/
def RecoversWrapped : Prop :=
  ∀ (before s after : String) (o : Dict), Wrapping before after → ObjectText s →
    loads s = .ok (.obj o) → parseChatCompletionJsonText (before ++ s ++ after) = .ok o

/-- A wrapped object is recovered when it is the whole answer, or when nothing before it ends
the search: the whole text holds no number that raises, and the first block between code
fences that is an object or holds such a number, if there is one, is the object itself. -/
theorem parseChatCompletionJsonText_iff (before s after : String) (o : Dict)
    (hw : Wrapping before after) (hs : ObjectText s) (ho : loads s = .ok (.obj o)) :
    parseChatCompletionJsonText (before ++ s ++ after) = .ok o ↔
      (Spaces before ∧ Spaces after) ∨
      loads (strip (before ++ s ++ after)) ≠ .error .value ∧
        ∀ earlier block later,
          jsonFenceCandidates (strip (before ++ s ++ after)) = earlier ++ block :: later →
          (∀ c ∈ earlier, ¬Decides c) → Decides block → loads block = .ok (.obj o) := by
  have hne : s ≠ "" := by
    rintro rfl
    obtain ⟨cs, _, htext⟩ := hs
    cases htext
  have hcandidates : parseChatCompletionJsonText (before ++ s ++ after) =
      firstObject (strip (before ++ s ++ after) ::
        (jsonFenceCandidates (strip (before ++ s ++ after)) ++ [s])) := by
    have hfilter : (some s).filter (· ≠ "") = some s := by simp [Option.filter, hne]
    unfold parseChatCompletionJsonText
    dsimp only
    rw [extractFirst_strip hw hs, hfilter]
    rfl
  have hembedded : firstObject [s] = .ok o := by
    rw [firstObject_of_decides (.inl ⟨o, ho⟩), parseJsonObject_eq_ok.mpr ho]
  by_cases hspaces : Spaces before ∧ Spaces after
  · have hstrip := strip_spaces hs hspaces.1 hspaces.2
    have hfirst := firstObject_of_decides (.inl ⟨o, ho⟩) (jsonFenceCandidates s ++ [s])
    rw [hcandidates, hstrip, hfirst, parseJsonObject_eq_ok]
    exact ⟨fun _ => .inl hspaces, fun _ => ho⟩
  have hwhole : ∀ parsed, loads (strip (before ++ s ++ after)) ≠ .ok (.obj parsed) := by
    intro parsed hload
    exact hspaces (spaces_of_loads hw hs hload)
  rw [hcandidates]
  constructor
  · intro hfound
    refine .inr ⟨?_, ?_⟩
    · intro hvalue
      rw [firstObject_of_decides (.inr hvalue), parseJsonObject_eq_ok, hvalue] at hfound
      cases hfound
    · intro earlier block later hblocks hearlier hblock
      have hskip : ¬Decides (strip (before ++ s ++ after)) := by
        rintro (⟨parsed, hload⟩ | hvalue)
        · exact hwhole parsed hload
        · rw [firstObject_of_decides (.inr hvalue), parseJsonObject_eq_ok, hvalue] at hfound
          cases hfound
      rw [firstObject_skip hskip, hblocks, List.append_assoc, firstObject_append hearlier,
        List.cons_append, firstObject_of_decides hblock] at hfound
      exact parseJsonObject_eq_ok.mp hfound
  · rintro (hboth | ⟨hvalue, hblocks⟩)
    · exact (hspaces hboth).elim
    · have hskip : ¬Decides (strip (before ++ s ++ after)) := by
        rintro (⟨parsed, hload⟩ | hraises)
        · exact hwhole parsed hload
        · exact hvalue hraises
      rw [firstObject_skip hskip]
      rcases exists_first_decides (jsonFenceCandidates (strip (before ++ s ++ after))) with
        hnone | ⟨earlier, block, later, hsplit, hearlier, hblock⟩
      · rw [firstObject_append hnone, hembedded]
      · rw [hsplit, List.append_assoc, firstObject_append hearlier, List.cons_append,
          firstObject_of_decides hblock, parseJsonObject_eq_ok.mpr
            (hblocks earlier block later hsplit hearlier hblock)]

theorem parseChatCompletionJsonText_iff_sampleObject :
    parseChatCompletionJsonText ("the answer: " ++ sampleObject ++ ".") =
      .ok [("a", .str "\x7d")] := by
  have hblocks : jsonFenceCandidates (strip ("the answer: " ++ sampleObject ++ ".")) = [] := by
    decide +kernel
  refine (parseChatCompletionJsonText_iff "the answer: " sampleObject "."
    [("a", .str "\x7d")] ⟨by decide, by decide, by decide, by decide, by decide⟩
    objectText_sampleObject (by decide +kernel)).mpr (.inr ⟨by decide +kernel, ?_⟩)
  intro earlier block later hsplit
  rw [hblocks] at hsplit
  simp at hsplit

def fencedObject : String := "\x7b\"a\":\"```\x7b\x7d```\"\x7d"

theorem objectText_fencedObject : ObjectText fencedObject :=
  @objectText_singleton ['a'] "```\x7b\x7d```".toList (by decide) (by decide)

theorem parseChatCompletionJsonText_fencedObject :
    parseChatCompletionJsonText ("the answer: " ++ fencedObject ++ "") = .ok [] := by
  decide +kernel

theorem not_recoversWrapped : ¬RecoversWrapped := by
  intro h
  have hparsed := h "the answer: " fencedObject "" [("a", .str "```\x7b\x7d```")]
    ⟨by decide, by decide, by decide, by decide, by decide⟩ objectText_fencedObject
    (by decide +kernel)
  rw [parseChatCompletionJsonText_fencedObject] at hparsed
  cases hparsed

end Headhunt.Gateways
