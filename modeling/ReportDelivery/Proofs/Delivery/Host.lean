import ReportDelivery.Proofs.Delivery.Run
import ReportDelivery.Proofs.Environment

/-! The collector's address.

The host is the first candidate with content, without the white space around it and without the
slashes at its end. What is left need not be an address: whether a candidate has content is asked
before its slashes are removed, and the white space in front of them stays. `chooseHost_usable_iff` says
for which candidates this goes wrong; for all others the host can be used, and is chosen again when
it is given. -/
namespace ReportDelivery

/-! ### Hosts -/

/-- A base for addresses: there is something, no white space around it and no slash at its end. -/
structure UsableHost (host : Text) : Prop where
  nonempty : host ≠ []
  stripped : host.Stripped
  noSlash : host.EndsOutside (· = .char '/')

/-- The slashes at the end of the text are all there is, or they stand after white space. -/
def LoneSlashes (t : Text) : Prop :=
  ∃ start slashes, t = start ++ slashes ∧ slashes ≠ [] ∧ (∀ c ∈ slashes, c = .char '/') ∧
    ∀ c ∈ start.getLast?, c.isBlank = true

variable {host t : Text}

theorem endsOutside_stripSlashes (t : Text) : (stripSlashes t).EndsOutside (· = .char '/') :=
  Text.endsOutside_trimEnd _ t

theorem stripSlashes_eq_self (h : host.EndsOutside (· = .char '/')) : stripSlashes host = host :=
  Text.trimEnd_eq_self h

theorem stripSlashes_append {slashes : Text} (hslashes : ∀ c ∈ slashes, c = .char '/')
    (h : t.EndsOutside (· = .char '/')) : stripSlashes (t ++ slashes) = t :=
  Text.trimEnd_append (fun c hc => decide_eq_true (hslashes c hc)) h

theorem stripSlashes_append_ends (t : Text) :
    ∃ slashes, t = stripSlashes t ++ slashes ∧ ∀ c ∈ slashes, c = .char '/' := by
  obtain ⟨slashes, heq, hslashes⟩ := Text.trimEnd_append_ends (· = .char '/') t
  exact ⟨slashes, heq, fun c hc => of_decide_eq_true (hslashes c hc)⟩

/-- Nothing or white space is left in front of lone slashes. -/
theorem LoneSlashes.not_usable (h : LoneSlashes t) : ¬ UsableHost (stripSlashes t) := by
  obtain ⟨start, slashes, rfl, -, hslashes, hblank⟩ := h
  have hstart : start.EndsOutside (· = .char '/') := by
    intro c hc
    refine decide_eq_false ?_
    rintro rfl
    cases hblank _ hc
  rw [stripSlashes_append hslashes hstart]
  intro husable
  have hlast := List.getLast_mem_getLast? husable.nonempty
  cases (hblank _ hlast).symm.trans (husable.stripped.stop _ hlast)

theorem usable_stripSlashes (hne : t ≠ []) (hstripped : t.Stripped) (h : ¬ LoneSlashes t) :
    UsableHost (stripSlashes t) := by
  obtain ⟨slashes, heq, hslashes⟩ := stripSlashes_append_ends t
  have hnonempty : stripSlashes t ≠ [] := by
    intro hempty
    rw [hempty, List.nil_append] at heq
    exact h ⟨[], slashes, heq, heq ▸ hne, hslashes, nofun⟩
  refine ⟨hnonempty, ⟨fun c hc => ?_, fun c hc => ?_⟩, endsOutside_stripSlashes t⟩
  · refine hstripped.start c ?_
    rw [heq]
    exact List.mem_head?_append_of_mem_head? hc
  · by_contra hblank
    refine h ⟨stripSlashes t, slashes, heq, ?_, hslashes, fun d hd => ?_⟩
    · intro hnone
      rw [hnone, List.append_nil] at heq
      exact hblank (hstripped.stop c (heq ▸ hc))
    · obtain rfl := Option.mem_unique hc hd
      exact Bool.not_eq_false _ ▸ hblank

/-! ### Choosing a host -/

/-- The candidates for the host, the last of which always has content. -/
def hostCandidates (explicit : Option Text) (environ : Environment) : List Text :=
  explicit.toList ++ [environ.get "BEARER_HOST", Text.ofString "https://my.bearer.sh"]

theorem chooseHost_eq (explicit : Option Text) (environ : Environment) :
    ∃ chosen, FirstContent (hostCandidates explicit environ) chosen ∧
      chooseHost explicit environ = stripSlashes chosen.strip := by
  have hdefault : defaultHost.hasContent = true := rfl
  obtain ⟨chosen, hfirst, hchosen⟩ :=
    firstContent?_getD (explicit.toList ++ [environ.get hostVariable]) hdefault
  rw [List.append_assoc] at hfirst
  exact ⟨chosen, hfirst, congrArg stripSlashes hchosen⟩

theorem chooseHost_of_hasContent (h : t.hasContent = true) (environ : Environment) :
    chooseHost (some t) environ = stripSlashes t.strip := by
  have hfirst : firstContent? (t :: [environ.get hostVariable]) = some t.strip :=
    firstContent?_eq_some.2 ⟨t, ⟨[], _, rfl, nofun, h⟩, rfl⟩
  exact congrArg (fun first => stripSlashes (first.getD defaultHost)) hfirst

theorem UsableHost.chooseHost_eq (h : UsableHost host) (environ : Environment) :
    chooseHost (some host) environ = host := by
  have hstrip : host.strip = host := h.stripped.strip_eq
  have hcontent : host.hasContent = true := Text.hasContent_of_strip_ne_nil (hstrip.symm ▸ h.nonempty)
  rw [chooseHost_of_hasContent hcontent, hstrip, stripSlashes_eq_self h.noSlash]

/-- A host that is chosen again when it is given can be used. -/
theorem usable_of_chooseHost_eq (h : chooseHost (some host) [] = host) : UsableHost host := by
  have hslash : host.EndsOutside (· = .char '/') := by
    rw [← h]
    exact endsOutside_stripSlashes _
  cases hcontent : host.hasContent with
  | false =>
    have hdefault : chooseHost (some host) [] = defaultHost := by
      have hnone : firstContent? (host :: [Environment.get [] hostVariable]) = none := by
        refine firstContent?_eq_none.2 fun other hother => ?_
        rcases List.mem_cons.1 hother with rfl | hother
        · exact hcontent
        · rw [List.mem_singleton.1 hother]
          rfl
      exact congrArg (fun first => stripSlashes (first.getD defaultHost)) hnone
    rw [hdefault] at h
    rw [← h] at hcontent
    cases hcontent
  | true =>
    rw [chooseHost_of_hasContent hcontent] at h
    -- Stripping can only take away, so it took nothing.
    obtain ⟨slashes, heq, -⟩ := stripSlashes_append_ends host.strip
    rw [h] at heq
    have hlength : (host ++ slashes).length ≤ host.length := heq ▸ Text.length_strip_le host
    have hnone : slashes = [] := by
      rw [List.length_append] at hlength
      exact List.eq_nil_of_length_eq_zero (by omega)
    rw [hnone, List.append_nil] at heq
    refine ⟨?_, heq ▸ Text.stripped_strip host, hslash⟩
    rintro rfl
    cases hcontent

/-! ### The main theorem -/

/-- **Main theorem.** The host comes from the first candidate with content: it is what stands in front
of the slashes at the end once white space around the candidate is removed. It does not end in a
slash, so clients keep it, and whatever they post goes to it with one of the two paths. It can be used
unless these slashes are all there is or stand after white space; and exactly then is it chosen again
in any environment. -/
theorem chooseHost_usable_iff (explicit : Option Text) (environ : Environment) :
    ∃ chosen host slashes, FirstContent (hostCandidates explicit environ) chosen ∧
      chooseHost explicit environ = host ∧
      (chosen.strip = host ++ slashes ∧ (∀ c ∈ slashes, c = .char '/') ∧
        host.EndsOutside (· = .char '/')) ∧
      (∀ key userAgent timeout verbose settings context fault s,
        (Client.create key host userAgent timeout).host = host ∧
        ∃ made, (deliverScan (.create key host userAgent timeout) verbose settings context fault
            s).2.conversation.requests = s.conversation.requests ++ made ∧
          ∀ request ∈ made, request.method = .post →
            request.url = host ++ Text.ofString "/api/v1/file_upload_offer" ∨
            request.url = host ++ Text.ofString "/api/v1/scan_finished") ∧
      (UsableHost host ↔ ¬ LoneSlashes chosen.strip) ∧
      (UsableHost host ↔ ∀ environ', chooseHost (some host) environ' = host) := by
  obtain ⟨chosen, hfirst, hhost⟩ := chooseHost_eq explicit environ
  obtain ⟨slashes, hslashes, hall⟩ := stripSlashes_append_ends chosen.strip
  have hend : (chooseHost explicit environ).EndsOutside (· = .char '/') :=
    endsOutside_stripSlashes _
  refine ⟨chosen, chooseHost explicit environ, slashes, hfirst, rfl,
    ⟨by rw [hhost]; exact hslashes, hall, hend⟩, ?_, ?_, ?_⟩
  · intro key userAgent timeout verbose settings context fault s
    have hkept : (Client.create key (chooseHost explicit environ) userAgent timeout).host =
        chooseHost explicit environ := stripSlashes_eq_self hend
    obtain ⟨made, hmade, hposts⟩ :=
      deliverScan_posts (.create key (chooseHost explicit environ) userAgent timeout) verbose
        settings context fault s
    refine ⟨hkept, made, hmade, fun request hmem hpost => ?_⟩
    obtain ⟨path, v, hpath, rfl⟩ := hposts request hmem hpost
    have hurl : ((Client.create key (chooseHost explicit environ) userAgent timeout).postRequest
        path v).url = chooseHost explicit environ ++ path := congrArg (· ++ path) hkept
    rw [hurl]
    rcases hpath with rfl | rfl
    · exact .inl rfl
    · exact .inr rfl
  · rw [hhost]
    refine ⟨fun husable hlone => hlone.not_usable husable, ?_⟩
    exact usable_stripSlashes hfirst.strip_ne_nil (Text.stripped_strip chosen)
  · exact ⟨fun husable => husable.chooseHost_eq, fun hagain => usable_of_chooseHost_eq (hagain [])⟩

example : chooseHost (some " https://a.test// ") [] = Text.ofString "https://a.test" := by decide

/-- A slash alone is chosen before the default, and nothing is left of it; the empty host is not
chosen again. White space in front of the slashes stays. -/
theorem loneSlash_not_usable :
    chooseHost (some "/") [] = [] ∧
    chooseHost (some []) [] = Text.ofString "https://my.bearer.sh" ∧
    chooseHost (some "https://a.test /") [] = Text.ofString "https://a.test " ∧
    ¬ UsableHost (chooseHost (some "/") []) ∧
    ¬ UsableHost (chooseHost (some "https://a.test /") []) := by
  refine ⟨by decide, by decide, by decide, fun h => h.nonempty (by decide), fun h => ?_⟩
  cases h.stripped.stop (.char ' ') (by decide)

end ReportDelivery
