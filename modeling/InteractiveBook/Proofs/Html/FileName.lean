import InteractiveBook.Proofs.Html.Placeholder

/-!
# The file that a placeholder names

The address of an image is written as the value of an attribute, in which an ampersand and a single
quote are escaped. The placeholder cuts the name of the file out of the value as it is written. The
escape of the single quote has a number sign in it, which ends the path: an image whose path has a
single quote is named by what stands before the quote. Every other image is named by its file.
-/

namespace InteractiveBook.Html

open Markdown

/-! ### Addresses and how they are written -/

/-- A character that is written as it is in an address, an ampersand or a single quote. -/
def isAddressChar (c : Char) : Bool :=
  Text.isAsciiAlphanumeric c || addressMarks.contains c || c == '&' || c == '\''

/-- A character of an address as it is written. -/
def writtenChar (c : Char) : List Char :=
  if c = '&' then "&amp;".toList else if c = '\'' then "&#x27;".toList else [c]

/-- An address as it is written in the value of an attribute. -/
def writtenAddress (address : List Char) : List Char := address.flatMap writtenChar

/-- The tag of an image with an address as it is written and an alternative text. -/
def writtenImage (value alt : List Char) : List Char :=
  "<img src=\"".toList ++ value ++ "\" alt=\"".toList ++ alt ++ "\" />".toList

/-- The path of an address, which ends before a query or a fragment. -/
def addressPath (address : List Char) : List Char := address.takeWhile fun c => c ≠ '?' ∧ c ≠ '#'

/-- What comes behind the last slash. -/
def behindSlash (path : List Char) : List Char := (path.reverse.takeWhile (· ≠ '/')).reverse

/-- The name of the file of an address as it is written, or the word for an image without one. -/
def writtenFile (address : List Char) : List Char :=
  if behindSlash (addressPath address) = [] then defaultImageName
  else writtenAddress (behindSlash (addressPath address))

/-- What a placeholder shows of an address. A single quote in the path cuts the name off behind the
ampersand of its escape. -/
def shownFile (address : List Char) : List Char :=
  if '\'' ∈ addressPath address then
    writtenAddress (behindSlash ((addressPath address).takeWhile (· ≠ '\''))) ++ ['&']
  else writtenFile address

/-- A character is an ampersand, a single quote, or written as it is. -/
theorem writtenChar_cases (c : Char) :
    (c = '&' ∧ writtenChar c = "&amp;".toList) ∨ (c = '\'' ∧ writtenChar c = "&#x27;".toList) ∨
      (c ≠ '&' ∧ c ≠ '\'' ∧ writtenChar c = [c]) := by
  by_cases hamp : c = '&'
  · exact .inl ⟨hamp, if_pos hamp⟩
  by_cases hquote : c = '\''
  · exact .inr (.inl ⟨hquote, by rw [writtenChar, if_neg hamp, if_pos hquote]⟩)
  · exact .inr (.inr ⟨hamp, hquote, by rw [writtenChar, if_neg hamp, if_neg hquote]⟩)

/-- The renderer writes an address in this way. -/
theorem escapeAddress_eq {address : List Char} (h : ∀ c ∈ address, isAddressChar c = true) :
    escapeAddress address = writtenAddress address := by
  refine List.flatMap_congr fun c hc => ?_
  rcases writtenChar_cases c with ⟨rfl, hwritten⟩ | ⟨rfl, hwritten⟩ | ⟨hamp, hquote, hwritten⟩
  · rfl
  · rfl
  · have hsafe : (Text.isAsciiAlphanumeric c || addressMarks.contains c) = true := by
      simpa [isAddressChar, hamp, hquote] using h c hc
    rw [if_pos hsafe, hwritten]

/-- What is written of an address is of the address or of an escape. -/
theorem mem_writtenAddress {address : List Char} {d : Char} (h : d ∈ writtenAddress address) :
    d ∈ address ∨ d ∈ "&amp;#x27;".toList := by
  have hamp : "&amp;".toList.Sublist "&amp;#x27;".toList := by decide
  have hquote : "&#x27;".toList.Sublist "&amp;#x27;".toList := by decide
  obtain ⟨c, hc, hd⟩ := List.mem_flatMap.1 h
  rcases writtenChar_cases c with ⟨-, hwritten⟩ | ⟨-, hwritten⟩ | ⟨-, -, hwritten⟩
  · exact .inr (hamp.mem (hwritten ▸ hd))
  · exact .inr (hquote.mem (hwritten ▸ hd))
  · exact .inl (List.mem_singleton.1 (hwritten ▸ hd) ▸ hc)

/-- A character that is no address character and no part of an escape is not written. -/
theorem not_mem_writtenAddress {address : List Char} (h : ∀ c ∈ address, isAddressChar c = true)
    {d : Char} (hd : isAddressChar d = false) (hescape : d ∉ "&amp;#x27;".toList) :
    d ∉ writtenAddress address := by
  intro hmem
  rcases mem_writtenAddress hmem with hmem | hmem
  · rw [h d hmem] at hd
    cases hd
  · exact hescape hmem

/-! ### The path -/

/-- The path goes on behind characters that do not end it. -/
theorem addressPath_append {front : List Char} (h : ∀ c ∈ front, c ≠ '?' ∧ c ≠ '#')
    (rest : List Char) : addressPath (front ++ rest) = front ++ addressPath rest := by
  rw [addressPath, List.takeWhile_append_of_pos fun c hc => by simpa using h c hc]
  rfl

/-- The path goes on behind a character that does not end it. -/
theorem addressPath_cons {c : Char} (h : c ≠ '?' ∧ c ≠ '#') (rest : List Char) :
    addressPath (c :: rest) = c :: addressPath rest :=
  addressPath_append (List.forall_mem_singleton.2 h) rest

/-- A question mark or a number sign ends the path. -/
theorem addressPath_cons_of_end {c : Char} (h : ¬(c ≠ '?' ∧ c ≠ '#')) (rest : List Char) :
    addressPath (c :: rest) = [] :=
  List.takeWhile_cons_of_neg (by simpa using h)

/-- The path of an address as it is written ends in the escape of the first single quote. -/
theorem addressPath_writtenAddress (address : List Char) :
    addressPath (writtenAddress address) =
      if '\'' ∈ addressPath address then
        writtenAddress ((addressPath address).takeWhile (· ≠ '\'')) ++ ['&']
      else writtenAddress (addressPath address) := by
  induction address with
  | nil => rfl
  | cons c rest ih =>
    have hwritten : writtenAddress (c :: rest) = writtenChar c ++ writtenAddress rest := rfl
    -- Where the path goes on, so does the written path, and its quotes are those of the rest.
    have hstep : c ≠ '?' ∧ c ≠ '#' → c ≠ '\'' → (∀ d ∈ writtenChar c, d ≠ '?' ∧ d ≠ '#') →
        addressPath (writtenAddress (c :: rest)) =
          if '\'' ∈ addressPath (c :: rest) then
            writtenAddress ((addressPath (c :: rest)).takeWhile (· ≠ '\'')) ++ ['&']
          else writtenAddress (addressPath (c :: rest)) := by
      intro hgoes hquote hescape
      have hkept : '\'' ∈ c :: addressPath rest ↔ '\'' ∈ addressPath rest := by
        simp [Ne.symm hquote]
      rw [addressPath_cons hgoes, hwritten, addressPath_append hescape, ih]
      simp only [hkept]
      split
      · rw [List.takeWhile_cons_of_pos (by simpa using hquote)]
        simp [writtenAddress]
      · rfl
    rcases writtenChar_cases c with ⟨rfl, hchar⟩ | ⟨rfl, hchar⟩ | ⟨-, hquote, hchar⟩
    · have hescape : ("&amp;".toList.all fun d => d ≠ '?' ∧ d ≠ '#') = true := by decide
      refine hstep (by decide) (by decide) fun d hd => ?_
      exact of_decide_eq_true (List.all_eq_true.1 hescape d (hchar ▸ hd))
    · rw [addressPath_cons (by decide), if_pos List.mem_cons_self, hwritten, hchar]
      rfl
    · by_cases hgoes : c ≠ '?' ∧ c ≠ '#'
      · exact hstep hgoes hquote (by simpa [hchar] using hgoes)
      · rw [hwritten, hchar, List.singleton_append, addressPath_cons_of_end hgoes,
          addressPath_cons_of_end hgoes]
        rfl

/-! ### The name of the file -/

/-- Behind the last slash of a path comes what stands behind it. -/
theorem behindSlash_append {file : List Char} (h : '/' ∉ file) (folder : List Char) :
    behindSlash (folder ++ '/' :: file) = file := by
  have hreverse : (folder ++ '/' :: file).reverse = file.reverse ++ '/' :: folder.reverse := by simp
  rw [behindSlash, hreverse, Text.takeWhile_closed (by simpa using h), List.reverse_reverse]

/-- A path without slashes is all behind the last slash. -/
theorem behindSlash_of_not_mem {path : List Char} (h : '/' ∉ path) : behindSlash path = path := by
  have hall : ∀ c ∈ path.reverse, decide (c ≠ '/') = true := by
    intro c hc
    simpa using fun heq : c = '/' => h (heq ▸ List.mem_reverse.1 hc)
  rw [behindSlash, List.takeWhile_eq_self_iff.2 hall, List.reverse_reverse]

/-- A path is what comes behind its last slash, perhaps with a folder before it. -/
theorem behindSlash_cases (path : List Char) : '/' ∉ behindSlash path ∧
    (behindSlash path = path ∨ ∃ folder, path = folder ++ '/' :: behindSlash path) := by
  constructor
  · intro hmem
    simpa using List.mem_takeWhile_imp (List.mem_reverse.1 hmem)
  by_cases hslash : '/' ∈ path
  · obtain ⟨file, folder, hsplit, hfile⟩ :=
      List.eq_append_cons_of_mem (List.mem_reverse.2 hslash)
    refine .inr ⟨folder.reverse, ?_⟩
    rw [behindSlash, hsplit, Text.takeWhile_closed hfile, ← List.reverse_reverse path, hsplit]
    simp
  · exact .inl (behindSlash_of_not_mem hslash)

/-- The last slash of an address is that of the address as it is written. -/
theorem behindSlash_writtenAddress (path : List Char) {tail : List Char} (h : '/' ∉ tail) :
    behindSlash (writtenAddress path ++ tail) = writtenAddress (behindSlash path) ++ tail := by
  have hfile : '/' ∉ writtenAddress (behindSlash path) ++ tail := by
    intro hmem
    rcases List.mem_append.1 hmem with hmem | hmem
    · rcases mem_writtenAddress hmem with hmem | hmem
      · exact (behindSlash_cases path).1 hmem
      · exact absurd hmem (by decide)
    · exact h hmem
  rcases (behindSlash_cases path).2 with hall | ⟨folder, hsplit⟩
  · rw [hall] at hfile ⊢
    exact behindSlash_of_not_mem hfile
  · have hwritten : writtenAddress path ++ tail =
        writtenAddress folder ++ '/' :: (writtenAddress (behindSlash path) ++ tail) := by
      conv_lhs => rw [hsplit]
      simp [writtenAddress, writtenChar]
    rw [hwritten, behindSlash_append hfile]

/-- Two conditions that agree on a list take the same stretch of it. -/
theorem takeWhile_congr {p q : Char → Bool} {cs : List Char} (h : ∀ c ∈ cs, p c = q c) :
    cs.takeWhile p = cs.takeWhile q := by
  induction cs with
  | nil => rfl
  | cons c cs ih =>
    rw [List.takeWhile_cons, List.takeWhile_cons, h c List.mem_cons_self,
      ih fun d hd => h d (List.mem_cons_of_mem c hd)]

/-- The name of a file is cut at a slash of either kind. Where there is no backslash it is what
comes behind the last slash of the path. -/
theorem fileName_of_not_mem {value : List Char} (h : '\\' ∉ value) :
    fileName value = behindSlash (addressPath value) := by
  refine congrArg List.reverse (takeWhile_congr fun c hc => ?_)
  have hne : c ≠ '\\' := by
    rintro rfl
    exact h ((List.takeWhile_prefix _).subset (List.mem_reverse.1 hc))
  simp [hne]

/-- An address that is written is empty only if it is. -/
theorem writtenAddress_eq_nil_iff {address : List Char} :
    writtenAddress address = [] ↔ address = [] := by
  cases address with
  | nil => exact iff_of_true rfl rfl
  | cons c rest =>
    have hwritten : writtenAddress (c :: rest) = writtenChar c ++ writtenAddress rest := rfl
    rcases writtenChar_cases c with ⟨-, hchar⟩ | ⟨-, hchar⟩ | ⟨-, -, hchar⟩ <;>
      simp [hwritten, hchar]

/-- The name that is cut out of an address as it is written is the one that is shown. -/
theorem fileName_writtenAddress {address : List Char}
    (h : ∀ c ∈ address, isAddressChar c = true) :
    (if fileName (writtenAddress address) = [] then defaultImageName
      else fileName (writtenAddress address)) = shownFile address := by
  have hbackslash : '\\' ∉ writtenAddress address :=
    not_mem_writtenAddress h (by decide) (by decide)
  have hplain := behindSlash_writtenAddress (addressPath address) (List.not_mem_nil (a := '/'))
  rw [List.append_nil, List.append_nil] at hplain
  rw [fileName_of_not_mem hbackslash, addressPath_writtenAddress, shownFile]
  split
  · rw [behindSlash_writtenAddress _ (by decide), if_neg (by simp)]
  · rw [hplain, writtenFile]
    simp only [writtenAddress_eq_nil_iff]

/-- The written name of a file does not end in an ampersand: an escape ends in a semicolon. -/
theorem getLast?_writtenFile_ne (address : List Char) :
    (writtenFile address).getLast? ≠ some '&' := by
  have hwritten : ∀ cs : List Char, (writtenAddress cs).getLast? ≠ some '&' := by
    intro cs
    induction cs with
    | nil => simp [writtenAddress]
    | cons c cs ih =>
      have hcons : writtenAddress (c :: cs) = writtenChar c ++ writtenAddress cs := rfl
      rw [hcons, List.getLast?_append]
      cases hlast : (writtenAddress cs).getLast? with
      | some d => simpa [hlast] using ih
      | none =>
        rcases writtenChar_cases c with ⟨-, hchar⟩ | ⟨-, hchar⟩ | ⟨hamp, -, hchar⟩
        · rw [hchar]; decide
        · rw [hchar]; decide
        · simpa [hchar] using hamp
  rw [writtenFile]
  split
  · decide
  · exact hwritten _

/-- A placeholder shows the file of an address exactly when there is no single quote in the path. -/
theorem shownFile_eq_writtenFile_iff (address : List Char) :
    shownFile address = writtenFile address ↔ '\'' ∉ addressPath address := by
  rw [shownFile]
  split
  · next hquote =>
    refine iff_of_false (fun heq => getLast?_writtenFile_ne address ?_) (not_not_intro hquote)
    rw [← heq, List.getLast?_concat]
  · next hquote => exact iff_of_true rfl hquote

/-! ### The tag of an image -/

/-- A value in quotation marks behind a name and an equals sign is the value of an attribute. -/
theorem attributeAt?_src {value : List Char} (h : '"' ∉ value) (rest : List Char) :
    attributeAt? ['s', 'r', 'c'] ("src=\"".toList ++ (value ++ '"' :: rest)) =
      some (value, rest) := by
  have hletters : Spells ['s', 'r', 'c'] "src".toList := by simp [Spells, isLetter]
  refine attributeAt?_eq_some_iff.2 ⟨"src".toList, [], [], hletters, List.forall_mem_nil _,
    List.forall_mem_nil _, h, ?_⟩
  simp [quotedAttribute]

/-- A character at which no attribute starts is passed over. -/
theorem findAttribute?_skip {name cs : List Char} {c : Char} (inWord : Bool)
    (h : attributeAt? name (c :: cs) = none) : findAttribute? name inWord (c :: cs) =
      (findAttribute? name (Text.isWord c) cs).map fun m => { m with before := c :: m.before } := by
  rw [findAttribute?, h, ite_self]

/-- The address of an image tag is found in it: nothing before it is an attribute of that name. -/
theorem findAttribute?_writtenImage {value : List Char} (h : '"' ∉ value) (rest : List Char) :
    findAttribute? ['s', 'r', 'c'] false ("<img src=\"".toList ++ (value ++ '"' :: rest)) =
      some ⟨"<img ".toList, value, rest⟩ := by
  have htag : "<img src=\"".toList ++ (value ++ '"' :: rest) =
      '<' :: 'i' :: 'm' :: 'g' :: ' ' :: ("src=\"".toList ++ (value ++ '"' :: rest)) := rfl
  have hsrc : "src=\"".toList ++ (value ++ '"' :: rest) =
      's' :: ("rc=\"".toList ++ (value ++ '"' :: rest)) := rfl
  have hfound : findAttribute? ['s', 'r', 'c'] false ("src=\"".toList ++ (value ++ '"' :: rest)) =
      some ⟨[], value, rest⟩ := by
    have hattribute := attributeAt?_src h rest
    rw [hsrc] at hattribute ⊢
    rw [findAttribute?, if_neg Bool.false_ne_true, hattribute]
  have hspace : Text.isWord ' ' = false := by decide
  rw [htag, findAttribute?_skip _ rfl, findAttribute?_skip _ rfl, findAttribute?_skip _ rfl,
    findAttribute?_skip _ rfl, findAttribute?_skip _ rfl, hspace, hfound]
  rfl

/-- The parts of an image tag. -/
def imageMatch (value alt : List Char) : TagMatch :=
  ⟨"<img".toList, " src=\"".toList ++ value ++ "\" alt=\"".toList ++ alt ++ "\" /".toList⟩

/-- The tag is written with its parts. -/
theorem written_imageMatch (value alt : List Char) :
    (imageMatch value alt).written = writtenImage value alt := by
  have hparts : ∀ opening start middle ending close : List Char,
      opening ++ (start ++ value ++ middle ++ alt ++ ending) ++ close =
        opening ++ start ++ value ++ middle ++ alt ++ (ending ++ close) := by simp
  exact hparts ..

/-- It is an image tag if there is no closing sign in it. -/
theorem isOf_imageMatch {value alt : List Char} (hvalue : '>' ∉ value) (halt : '>' ∉ alt) :
    (imageMatch value alt).IsOf .image where
  opening := ⟨"img".toList, rfl, by simp [Spells, TagKind.image, isLetter]⟩
  closed := by simp [imageMatch, hvalue, halt]
  admitted := rfl

/-- The name of the image is cut out of its address. -/
theorem imageName_imageMatch {value : List Char} (h : '"' ∉ value) (alt : List Char) :
    imageName (imageMatch value alt) =
      if fileName value = [] then defaultImageName else fileName value := by
  have hsplit : ∀ front middle ending : List Char,
      front ++ value ++ '"' :: middle ++ alt ++ ending =
        front ++ (value ++ '"' :: (middle ++ alt ++ ending)) := by simp
  have hwritten : (imageMatch value alt).written = _ :=
    (written_imageMatch value alt).trans (hsplit _ " alt=\"".toList _)
  rw [imageName, hwritten, findAttribute?_writtenImage h]

/-- An image tag with such an address gives way to a placeholder that shows its file. -/
theorem replaceImages_writtenImage {address alt : List Char}
    (h : ∀ c ∈ address, isAddressChar c = true) (halt : '>' ∉ alt) (rest : List Char) :
    replaceImages (String.ofList (writtenImage (writtenAddress address) alt ++ rest)) =
      imagePlaceholder (String.ofList (shownFile address)) ++
        replaceImages (String.ofList rest) := by
  have hclosing : '>' ∉ writtenAddress address := not_mem_writtenAddress h (by decide) (by decide)
  have hquote : '"' ∉ writtenAddress address := not_mem_writtenAddress h (by decide) (by decide)
  rw [← String.toList_inj, String.toList_append, toList_replaceImages, toList_replaceImages,
    String.toList_ofList, String.toList_ofList, ← written_imageMatch, withoutImages,
    replaceTags_tag (isOf_imageMatch hclosing halt), replaceImage, imageName_imageMatch hquote,
    fileName_writtenAddress h]
  rfl

/-- The value of an attribute has no closing sign and no quotation mark in it. -/
theorem not_mem_escapeAttribute (cs : List Char) :
    '>' ∉ escapeAttribute cs ∧ '"' ∉ escapeAttribute cs := by
  have hescapes : ∀ escape ∈ ["&quot;", "&#39;", "&amp;", "&lt;", "&gt;"],
      (escape.toList.all fun d => d ≠ '>' ∧ d ≠ '"') = true := by decide
  have hescape : ∀ escape ∈ ["&quot;", "&#39;", "&amp;", "&lt;", "&gt;"],
      ∀ d ∈ escape.toList, d ≠ '>' ∧ d ≠ '"' := fun escape hmem d hd =>
    of_decide_eq_true (List.all_eq_true.1 (hescapes escape hmem) d hd)
  have hchar : ∀ d ∈ escapeAttribute cs, d ≠ '>' ∧ d ≠ '"' := by
    intro d hd
    obtain ⟨c, -, hc⟩ := List.mem_flatMap.1 hd
    split at hc
    · exact hescape "&quot;" (by simp) d hc
    · exact hescape "&#39;" (by simp) d hc
    · next hquote _ =>
      unfold escapeTextChar at hc
      split at hc
      · exact hescape "&amp;" (by simp) d hc
      · exact hescape "&lt;" (by simp) d hc
      · exact hescape "&gt;" (by simp) d hc
      · next hclosing =>
        obtain rfl := List.mem_singleton.1 hc
        exact ⟨hclosing, hquote⟩
  exact ⟨fun h => (hchar _ h).1 rfl, fun h => (hchar _ h).2 rfl⟩

/-- The tag of an image without a title. -/
theorem imageTag_eq {address : List Char} (h : ∀ c ∈ address, isAddressChar c = true)
    (description : List Char) : imageTag address [] description =
      writtenImage (writtenAddress address) (escapeAttribute description) := by
  have htitle : ∀ front ending : List Char,
      front ++ titleAttribute [] ++ ending = front ++ ending := by
    intro front ending
    rw [titleAttribute, List.isEmpty_nil, if_pos rfl, List.append_nil]
  rw [← escapeAddress_eq h]
  exact htitle _ _

/-- The renderer writes an image without a title as such a tag. -/
theorem write_image {address : List Char} (h : ∀ c ∈ address, isAddressChar c = true)
    (es : List Element) (page : Page) : (Element.image address [] es).write page =
      page.put (writtenImage (writtenAddress address) (escapeAttribute (plainAll es))) := by
  rw [Element.write, imageTag_eq h]

/-- An image is rendered as a tag, and the tag gives way to one placeholder. The placeholder shows
the file of the address, as it is written, exactly when there is no single quote in the path; where
there is one, it shows what stands between the last slash before the quote and the quote, with an
ampersand behind it. -/
theorem placeholder_names_file {address : List Char}
    (h : ∀ c ∈ address, isAddressChar c = true) :
    (∀ es page, (Element.image address [] es).write page =
        page.put (writtenImage (writtenAddress address) (escapeAttribute (plainAll es))) ∧
      '>' ∉ escapeAttribute (plainAll es) ∧ '"' ∉ escapeAttribute (plainAll es)) ∧
    (∀ alt rest, '>' ∉ alt →
      replaceImages (String.ofList (writtenImage (writtenAddress address) alt ++ rest)) =
        imagePlaceholder (String.ofList (shownFile address)) ++
          replaceImages (String.ofList rest)) ∧
    (shownFile address = writtenFile address ↔ '\'' ∉ addressPath address) :=
  ⟨fun es page => ⟨write_image h es page, not_mem_escapeAttribute _⟩,
    fun _ rest halt => replaceImages_writtenImage h halt rest,
    shownFile_eq_writtenFile_iff address⟩

/-- An address with an ampersand in the name of the file and quotes in the query. -/
def queriedAddress : List Char := "pics/a&b.png?v='1'".toList

/-- The placeholder shows the file of the address. -/
theorem queriedAddress_named : (∀ c ∈ queriedAddress, isAddressChar c = true) ∧
    '>' ∉ "x".toList ∧
    replaceImages (String.ofList (writtenImage (writtenAddress queriedAddress) "x".toList ++ [])) =
      imagePlaceholder "a&amp;b.png" ++ replaceImages (String.ofList []) := by
  have hchars : ∀ c ∈ queriedAddress, isAddressChar c = true :=
    List.all_eq_true.1 (by decide +kernel)
  have halt : '>' ∉ "x".toList := by decide
  obtain ⟨-, hreplaced, hshown⟩ := placeholder_names_file hchars
  have hname : String.ofList (writtenFile queriedAddress) = "a&amp;b.png" := by decide +kernel
  refine ⟨hchars, halt, ?_⟩
  rw [hreplaced _ [] halt, hshown.2 (by decide +kernel), hname]

/-- An address with a single quote in the name of a folder. -/
def quotedFolder : List Char := "a'b/c.png".toList

/-- The placeholder does not show the file of the address but a part of its folder. -/
theorem quotedFolder_shown : (∀ c ∈ quotedFolder, isAddressChar c = true) ∧
    Markdown.toHtml {} "![x](a'b/c.png)" =
      "<p>" ++ String.ofList (writtenImage (writtenAddress quotedFolder) "x".toList) ++ "</p>\n" ∧
    replaceImages (String.ofList (writtenImage (writtenAddress quotedFolder) "x".toList)) =
      imagePlaceholder "a&" ∧
    String.ofList (writtenFile quotedFolder) = "c.png" ∧
      imagePlaceholder "a&" ≠ imagePlaceholder "c.png" := by
  have hchars : ∀ c ∈ quotedFolder, isAddressChar c = true :=
    List.all_eq_true.1 (by decide +kernel)
  have halt : '>' ∉ "x".toList := by decide
  have hreplaced := replaceImages_writtenImage hchars halt []
  have hshown : String.ofList (shownFile quotedFolder) = "a&" := by decide +kernel
  have hnothing : replaceImages (String.ofList []) = "" := rfl
  rw [List.append_nil, hshown, hnothing, String.append_empty] at hreplaced
  have hother : imagePlaceholder "a&" ≠ imagePlaceholder "c.png" := by
    intro heq
    have hsame := @imagePlaceholder_injective "a&".toList "c.png".toList heq
    exact absurd hsame (by decide)
  exact ⟨hchars, by decide +kernel, hreplaced, by decide +kernel, hother⟩

end InteractiveBook.Html
