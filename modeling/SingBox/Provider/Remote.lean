import SingBox.Foundation.Run

/-! # Conditional fetches of a remote provider

A fetch asks the server for content other than that of the last ETag. The
provider notes the ETag of a response before it looks at the content, and keeps
the old one if there is none. So the ETag that it sends belongs to the applied
options only as long as content has an ETag exactly if it can be applied.
-/

namespace SingBox.Provider

/-- Options with the ETag of the response that had them. Only the model keeps
the two together. -/
structure Delivered (Options : Type) where
  options : Options
  etag : String
  deriving DecidableEq

/-- `adapter.SavedBinary`, with the options themselves in place of a hash or a
text of them; `url` is empty in old entries. -/
structure SavedBinary (Options : Type) where
  lastEtag : String
  url : String
  hash : Option (Delivered Options) := none
  content : Option (Delivered Options) := none

/-- What a provider finds when it starts: its entry in the cache file, if there
is one, and the options in the file at its path, if it has a path. -/
structure Cache (Options : Type) where
  saveSub : Option (SavedBinary Options) := none
  path : Bool := false
  file : Option (Delivered Options) := none

structure ProviderRemote (Options : Type) where
  lastEtag : String := ""
  applied : Option (Delivered Options) := none
  deriving DecidableEq

inductive Response (Options : Type)
  /-- The request fails, or reading the body of a 200. -/
  | failed
  | unexpected
  | notModified
  /-- The options of the content, if `updateProviderFromContent` can parse it. -/
  | ok (etag : String) (options : Option Options)

variable {Options : Type} {cache : Cache Options} {url : String}

/-- A cache that cannot be used leaves the provider empty. -/
def loadCacheFile [DecidableEq Options] (url : String) (cache : Cache Options) :
    ProviderRemote Options :=
  match cache.saveSub with
  | none => { applied := if cache.path then cache.file else none }
  | some saveSub =>
    if saveSub.url ≠ "" ∧ saveSub.url ≠ url then {}
    else
      match if cache.path then cache.file else saveSub.content with
      | none => {}
      | some content =>
        if cache.path ∧ saveSub.hash ≠ some content then {}
        else { lastEtag := saveSub.lastEtag, applied := some content }

/-- The ETag in the cache came with the content that is saved with it. -/
def Cache.Sound (cache : Cache Options) : Prop :=
  ∀ saveSub ∈ cache.saveSub, ∀ content ∈ if cache.path then saveSub.hash else saveSub.content,
    saveSub.lastEtag = "" ∨ saveSub.lastEtag = content.etag

namespace ProviderRemote

variable (provider : ProviderRemote Options)

/-- The header `If-None-Match`, which is left out if it is empty. -/
def ifNoneMatch : String := provider.lastEtag

def fetch : Response Options → ProviderRemote Options
  | .ok etag options =>
    let noted := if etag ≠ "" then { provider with lastEtag := etag } else provider
    match options with
    | none => noted
    | some options => { noted with applied := some ⟨options, etag⟩ }
  | _ => provider

/-- The ETag that is sent came with the options that are applied. -/
def Sound : Prop :=
  provider.ifNoneMatch = "" ∨
    ∃ content ∈ provider.applied, provider.ifNoneMatch = content.etag

/-- Content that is applied has an ETag, unless none is known, and content that
cannot be applied has none. -/
def Tagged : Response Options → Prop
  | .ok etag none => etag = ""
  | .ok etag (some _) => etag ≠ "" ∨ provider.lastEtag = ""
  | _ => True

/-- A fetch of tagged content. -/
def Fetches (before : ProviderRemote Options) (response : Response Options)
    (after : ProviderRemote Options) : Prop :=
  before.Tagged response ∧ after = before.fetch response

theorem Sound.fetch {provider : ProviderRemote Options} {response : Response Options}
    (isSound : provider.Sound) (isTagged : provider.Tagged response) :
    (provider.fetch response).Sound := by
  cases response with
  | ok etag options =>
    by_cases isEmpty : etag = ""
    · subst isEmpty
      cases options with
      | none => exact isSound
      | some options =>
        have noTag : provider.lastEtag = "" := by simpa [Tagged] using isTagged
        exact .inl noTag
    · cases options with
      | none => exact absurd isTagged isEmpty
      | some =>
        right
        simp [ProviderRemote.fetch, ifNoneMatch, isEmpty]
  | _ => exact isSound

end ProviderRemote

theorem Cache.Sound.load [DecidableEq Options] (isSound : cache.Sound) :
    (loadCacheFile url cache).Sound := by
  rw [loadCacheFile]
  split
  · exact .inl rfl
  next saveSub isSaved =>
  split
  · exact .inl rfl
  split
  · exact .inl rfl
  next content isLoaded =>
  split
  · exact .inl rfl
  next isValid =>
  have isKept : content ∈ if cache.path then saveSub.hash else saveSub.content := by
    cases hasPath : cache.path with
    | false => simpa [hasPath] using isLoaded
    | true => simpa [hasPath] using isValid
  have sameTag := isSound saveSub isSaved content isKept
  exact sameTag.imp_right fun isTag => ⟨content, rfl, isTag⟩

/-- In every run of fetches of tagged content the ETag that is sent belongs to
the applied options. -/
theorem sound_of_tagged [DecidableEq Options] {url : String} {cache : Cache Options}
    (isSound : cache.Sound) {responses : List (Response Options)}
    {provider : ProviderRemote Options}
    (run : Run ProviderRemote.Fetches (loadCacheFile url cache) responses provider) :
    provider.Sound := by
  apply run.preserves isSound.load
  rintro _ _ _ isSound ⟨isTagged, rfl⟩
  exact isSound.fetch isTagged

/-- Content with an ETag replaces other content with one, and is not modified
later. -/
theorem sound_not_modified :
    ∃ provider : ProviderRemote Nat, provider.lastEtag = "b" ∧ provider.Sound := by
  have noCache : Cache.Sound ({} : Cache Nat) := by simp [Cache.Sound]
  have run : Run ProviderRemote.Fetches (loadCacheFile "u" ({} : Cache Nat))
      ([] ++ [.ok "a" (some 1)] ++ [.ok "b" (some 2)] ++ [.notModified]) _ :=
    .extend (.extend (.extend .start ⟨.inl (by decide), rfl⟩) ⟨.inl (by decide), rfl⟩)
      ⟨trivial, rfl⟩
  exact ⟨_, rfl, sound_of_tagged noCache run⟩

/-- After content that does not parse, its ETag is sent; after content without
an ETag, that of the options before. -/
theorem stale_etag :
    (¬ (((loadCacheFile "u" {} : ProviderRemote Nat).fetch (.ok "a" none)).Sound)) ∧
      ¬ (((loadCacheFile "u" {} : ProviderRemote Nat).fetch (.ok "a" (some 1))).fetch
        (.ok "" (some 2))).Sound := by
  simp [loadCacheFile, ProviderRemote.fetch, ProviderRemote.Sound, ProviderRemote.ifNoneMatch]

end SingBox.Provider
