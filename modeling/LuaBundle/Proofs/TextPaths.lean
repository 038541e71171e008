import LuaBundle.BytePath
import LuaBundle.Proofs.Decoding
import LuaBundle.Proofs.Lines
import LuaBundle.Proofs.OneLineMessages

/-! # Paths of bytes that are texts

A path of bytes is worked on by spelling its bytes as characters, and what is done to the spelling
spells bytes again. If the bytes are those of a text, nothing can be seen of this: no byte of a
character is a slash or a dot unless the character is one, so the components are those of the text,
each with its bytes, and folding, joining and looking for what two paths share come to the same.
-/

namespace LuaBundle

variable {c : Char} {s : List Char}

namespace Text

/-- Characters with the numbers of bytes. -/
def AreBytes (s : List Char) : Prop :=
  ∀ c ∈ s, c.toNat < 256

@[simp]
theorem map_toUInt8_map_ofUInt8 (read : List UInt8) :
    (read.map Char.ofUInt8).map Char.toUInt8 = read := by
  simp [Function.comp_def, toUInt8_ofUInt8]

theorem map_ofUInt8_map_toUInt8 (are : AreBytes s) : (s.map Char.toUInt8).map Char.ofUInt8 = s := by
  rw [List.map_map]
  exact (List.map_congr_left fun c mem => ofUInt8_toUInt8 (are c mem)).trans (List.map_id s)

theorem areBytes_map (read : List UInt8) : AreBytes (read.map Char.ofUInt8) := by
  intro c mem
  obtain ⟨b, -, rfl⟩ := List.mem_map.1 mem
  rw [toNat_ofUInt8]
  exact b.toNat_lt

/-- The bytes of a text, spelled as characters. -/
def encoded (s : List Char) : List Char :=
  (bytes s).map Char.ofUInt8

@[simp]
theorem encoded_append (s t : List Char) : encoded (s ++ t) = encoded s ++ encoded t := by
  simp [encoded]

theorem encoded_injective : Function.Injective encoded := by
  intro s t same
  apply bytes_injective
  rw [← map_toUInt8_map_ofUInt8 (bytes s), ← map_toUInt8_map_ofUInt8 (bytes t)]
  exact congrArg (List.map Char.toUInt8) same

theorem slash_mem_encoded_iff : '/' ∈ encoded s ↔ '/' ∈ s := by
  rw [← toUInt8_mem_bytes_iff (s := s) (by decide), encoded, List.mem_map]
  constructor
  · rintro ⟨b, mem, spelled⟩
    rwa [← spelled, toUInt8_ofUInt8]
  · intro mem
    exact ⟨_, mem, rfl⟩

theorem encoded_joinWith (pieces : List (List Char)) :
    encoded (joinWith ['/'] pieces) = joinWith ['/'] (pieces.map encoded) := by
  induction pieces with
  | nil => rfl
  | cons piece pieces ih =>
      cases pieces with
      | nil => rfl
      | cons next pieces =>
          rw [joinWith, encoded_append, encoded_append, ih]
          · rfl
          · simp

theorem getLast?_encoded_eq_some_slash :
    (encoded s).getLast? = some '/' ↔ s.getLast? = some '/' := by
  have spelled : ∀ last : Option UInt8,
      last.map Char.ofUInt8 = some '/' ↔ last = some '/'.toUInt8 := by
    intro last
    constructor
    · intro same
      obtain ⟨b, rfl, spelled⟩ := Option.map_eq_some_iff.1 same
      rw [← spelled, toUInt8_ofUInt8]
    · rintro rfl
      rfl
  rw [encoded, List.getLast?_map, spelled, getLast?_bytes_eq_some_iff (by decide)]

theorem split_encoded (s : List Char) : split '/' (encoded s) = (split '/' s).map encoded := by
  have joined : encoded s = joinWith ['/'] ((split '/' s).map encoded) := by
    rw [← encoded_joinWith, joinWith_split]
  rw [joined, split_joinWith]
  · simpa using split_ne_nil '/' s
  · intro piece mem
    obtain ⟨plain, among, rfl⟩ := List.mem_map.1 mem
    rw [slash_mem_encoded_iff]
    exact not_mem_of_mem_split among

end Text

namespace Component

/-- A component with bytes for characters. -/
def encode : Component → Component
  | .name chars => .name (Text.encoded chars)
  | component => component

theorem chars_encode (component : Component) :
    component.encode.chars = Text.encoded component.chars := by
  cases component <;> rfl

theorem encode_injective : Function.Injective encode := by
  intro component other same
  cases component <;> cases other <;> simp_all [encode, Text.encoded_injective.eq_iff]

theorem ofPiece?_encoded (piece : List Char) :
    ofPiece? (Text.encoded piece) = (ofPiece? piece).map encode := by
  have empty : Text.encoded piece = [] ↔ piece = [] := Text.encoded_injective.eq_iff' rfl
  have dot : Text.encoded piece = ['.'] ↔ piece = ['.'] := Text.encoded_injective.eq_iff' rfl
  have dots : Text.encoded piece = ['.', '.'] ↔ piece = ['.', '.'] :=
    Text.encoded_injective.eq_iff' rfl
  unfold ofPiece?
  split <;> split <;> simp_all [encode]

theorem ofFirstPiece?_encoded (piece : List Char) :
    ofFirstPiece? (Text.encoded piece) = (ofFirstPiece? piece).map encode := by
  have dot : Text.encoded piece = ['.'] ↔ piece = ['.'] := Text.encoded_injective.eq_iff' rfl
  unfold ofFirstPiece?
  split <;> split <;> simp_all [encode, ofPiece?_encoded]

theorem ofChars_encoded (s : List Char) : ofChars (Text.encoded s) = (ofChars s).map encode := by
  have later : ∀ pieces : List (List Char), (pieces.map Text.encoded).filterMap ofPiece? =
      (pieces.filterMap ofPiece?).map encode := by
    intro pieces
    rw [List.filterMap_map, List.map_filterMap]
    exact List.filterMap_congr fun piece _ => ofPiece?_encoded piece
  -- The slashes stand where they stood, so only the first piece can be read in another way.
  unfold ofChars
  rw [Text.split_encoded]
  match Text.split '/' s with
  | [] => rfl
  | [piece] => simp [ofFirstPiece?_encoded, Option.toList_map]
  | [] :: next :: pieces => exact congrArg (Component.root :: ·) (later (next :: pieces))
  | (c :: piece) :: next :: pieces =>
    have started : Text.encoded (c :: piece) ≠ [] :=
      (Text.encoded_injective.ne_iff' rfl).2 (List.cons_ne_nil c piece)
    obtain ⟨d, rest, encoded⟩ := List.exists_cons_of_ne_nil started
    have first := ofFirstPiece?_encoded (c :: piece)
    rw [encoded] at first
    simp only [List.map_cons, encoded, first, List.map_append, Option.toList_map]
    exact congrArg _ (later (next :: pieces))

theorem fold_encode (above : List Component) (component : Component) :
    fold (above.map encode) component.encode = (fold above component).map encode := by
  cases component with
  | root => simp [encode]
  | current => simp [encode]
  | name chars => simp [encode]
  | parent =>
      cases above with
      | nil => rfl
      | cons last above => cases last <;> rfl

theorem normalize_encode (location : List Component) :
    normalize (location.map encode) = (normalize location).map encode := by
  have folded : location.foldl (fun above component => fold above component.encode)
      ([].map encode) = (location.foldl fold []).map encode :=
    List.foldl_hom (List.map encode) fold_encode
  rw [normalize, normalize, List.foldl_map, List.map_reverse, ← folded]
  rfl

theorem render_encode (location : List Component) :
    render (location.map encode) = Text.encoded (render location) := by
  have joined : ∀ components : List Component,
      Text.joinWith ['/'] ((components.map encode).map chars) =
        Text.encoded (Text.joinWith ['/'] (components.map chars)) := by
    intro components
    rw [Text.encoded_joinWith, List.map_map, List.map_map]
    simp only [Function.comp_def, chars_encode]
  cases location with
  | nil => rfl
  | cons first rest =>
      cases first with
      | root => exact congrArg ('/' :: ·) (joined rest)
      | current => exact joined (.current :: rest)
      | parent => exact joined (.parent :: rest)
      | name chars => exact joined (.name chars :: rest)

theorem sharedLength_encode (base path : List Component) :
    sharedLength (base.map encode) (path.map encode) = sharedLength base path := by
  induction base generalizing path with
  | nil => rfl
  | cons first base ih =>
      cases path with
      | nil => rfl
      | cons second path =>
          simp only [List.map_cons, sharedLength, encode_injective.eq_iff, ih]

theorem way_encode (base path : List Component) :
    way (base.map encode) (path.map encode) = (way base path).map encode := by
  rw [way, way, sharedLength_encode, List.length_map, List.map_append, List.map_replicate,
    List.map_drop]
  rfl

end Component

namespace Path

theorem mem_of_mem_join {path other : Path} (mem : c ∈ (path.join other).text.toList) :
    c ∈ path.text.toList ∨ c = '/' ∨ c ∈ other.text.toList := by
  simp only [join] at mem
  split at mem
  · exact .inr (.inr mem)
  · split at mem
    · rw [String.toList_append, List.mem_append] at mem
      exact mem.imp_right .inr
    · simpa [or_assoc] using mem

end Path

namespace BytePath

variable {path other : BytePath}

theorem areBytes_spelling (path : BytePath) : Text.AreBytes path.spelling.text.toList := by
  rw [spelling, String.toList_ofList]
  exact Text.areBytes_map path.bytes

@[simp]
theorem ofSpelling_spelling (path : BytePath) : ofSpelling path.spelling = path := by
  rw [ofSpelling, spelling, String.toList_ofList, Text.map_toUInt8_map_ofUInt8]

theorem spelling_injective : Function.Injective spelling :=
  Function.LeftInverse.injective ofSpelling_spelling

theorem spelling_ofSpelling {path : Path} (are : Text.AreBytes path.text.toList) :
    (ofSpelling path).spelling = path := by
  rw [spelling, ofSpelling, Text.map_ofUInt8_map_toUInt8 are, String.ofList_toList]

@[simp]
theorem spelling_join (path other : BytePath) :
    (path.join other).spelling = path.spelling.join other.spelling := by
  apply spelling_ofSpelling
  intro c mem
  rcases Path.mem_of_mem_join mem with front | rfl | back
  · exact path.areBytes_spelling c front
  · decide
  · exact other.areBytes_spelling c back

@[simp]
theorem spelling_normalize (path : BytePath) :
    path.normalize.spelling = path.spelling.normalize := by
  apply spelling_ofSpelling
  intro c mem
  by_cases slash : c = '/'
  · rw [slash]
    decide
  · exact path.areBytes_spelling c (Path.mem_of_uses (Path.uses_of_mem_normalize mem slash))

theorem steps_eq (base path : BytePath) :
    base.steps path = (Component.way base.location path.location).map fun step =>
      step.chars.map Char.toUInt8 := rfl

theorem spelling_ofText (text : String) :
    (ofText text).spelling = ⟨String.ofList (Text.encoded text.toList)⟩ := rfl

/-- A text has the same components on disk, each with its bytes. -/
theorem location_ofText (path : Path) :
    (ofText path.text).location = path.location.map Component.encode := by
  rw [location, Path.location, spelling_ofText, String.toList_ofList, Component.ofChars_encoded,
    Path.location]

theorem isAbsolute_ofText (path : Path) : (ofText path.text).isAbsolute = path.isAbsolute := by
  have first : (path.location.map Component.encode).head? = some .root ↔
      path.location.head? = some .root := by
    cases path.location with
    | nil => simp
    | cons first rest => cases first <;> simp [Component.encode]
  rw [Bool.eq_iff_iff, isAbsolute, Path.isAbsolute_iff, Path.isAbsolute_iff, ← first,
    ← location_ofText, location]

theorem join_ofText (path other : Path) :
    (ofText path.text).join (ofText other.text) = ofText (path.join other).text := by
  apply spelling_injective
  -- Joining looks at the start of the one path and at the end of the other, and at nothing else.
  have kind : Path.isAbsolute ⟨String.ofList (Text.encoded other.text.toList)⟩ = other.isAbsolute :=
    isAbsolute_ofText other
  have empty : Text.encoded path.text.toList = [] ↔ path.text.toList = [] :=
    Text.encoded_injective.eq_iff' rfl
  have ending : (Text.encoded path.text.toList).getLast? = none ∨
        (Text.encoded path.text.toList).getLast? = some '/' ↔
      path.text.toList.getLast? = none ∨ path.text.toList.getLast? = some '/' := by
    rw [Text.getLast?_encoded_eq_some_slash, List.getLast?_eq_none_iff, List.getLast?_eq_none_iff,
      empty]
  simp only [spelling_join, spelling_ofText, Path.join, kind, String.toList_ofList, ending]
  split
  · rfl
  · split
    · rw [String.toList_append, Text.encoded_append, String.ofList_append]
    · rw [String.toList_append, String.toList_append, Text.encoded_append, Text.encoded_append,
        String.ofList_append, String.ofList_append]
      rfl

theorem normalize_ofText (path : Path) :
    (ofText path.text).normalize = ofText path.normalize.text := by
  apply spelling_injective
  rw [spelling_normalize, Path.normalize, ← location, location_ofText, Component.normalize_encode,
    Path.ofLocation, Component.render_encode, spelling_ofText, Path.normalize, Path.ofLocation,
    String.toList_ofList]

theorem steps_ofText (base path : Path) :
    (ofText base.text).steps (ofText path.text) =
      (Component.way base.location path.location).map fun step => Text.bytes step.chars := by
  rw [steps_eq, location_ofText, location_ofText, Component.way_encode, List.map_map]
  refine List.map_congr_left fun step _ => ?_
  rw [Function.comp_apply, Component.chars_encode, Text.encoded, Text.map_toUInt8_map_ofUInt8]

theorem absolute_ofText (base : Path) (extensions : List String) (files : FileView)
    (module : String) :
    (ofText base.text).absolute module =
      ofText ((Resolver.ofBase base extensions files).absolute module).text := by
  have file := join_ofText base.normalize ⟨module⟩
  rw [absolute, normalize_ofText, file, normalize_ofText, Resolver.absolute, Resolver.ofBase]

theorem canonical_ofText (base path : Path) (extensions : List String) (files : FileView) :
    (ofText base.text).canonical (ofText path.text) =
      (Resolver.ofBase base extensions files).canonical path := by
  rw [canonical, normalize_ofText, join_ofText, normalize_ofText, relativeTo, steps_ofText,
    List.map_map]
  simp only [Function.comp_def, Text.decodeLossy_bytes]
  rw [Component.way, List.map_append, List.map_replicate]
  rfl

end BytePath

end LuaBundle
