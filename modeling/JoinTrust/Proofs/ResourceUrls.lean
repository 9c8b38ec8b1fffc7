import JoinTrust.Server
import JoinTrust.Proofs.Url.UrlForm

set_option autoImplicit false

/-!
The addresses of resources. A path that is set on the address of a server is encoded before it becomes part of it, so
that no path whatever gets into another component: the address of a resource is read back as the address of the server
with another path.
-/

namespace JoinTrust

/-!
## Paths set on a URL
-/

namespace Url

variable {url : Url} {host : Host} {segments : List (List Char)}

/-- The segments that a path becomes when it is set on a URL. -/
def segmentsOf (url : Url) (path : String) : List (List Char) :=
  readSegments url.scheme (withoutBreaks path.toList) (url.query.isNone && url.fragment.isNone)

theorem Written.setPath_eq (written : Written url host segments) (path : String) :
    url.setPath path = { url with path := .segments (url.segmentsOf path) } := by
  simp only [setPath, written.path, segmentsOf]

/-- A path is in written form as soon as it is set, whatever it was. -/
theorem Written.setPath (written : Written url host segments) (path : String) :
    Written (url.setPath path) host (url.segmentsOf path) := by
  rw [written.setPath_eq]
  exact
    { written with
      path := rfl
      segments := heldPath_readSegments url.scheme _ _ }

/-- A path in written form is set as it is. -/
theorem segmentsOf_written {path : String} (written : WrittenPath url.scheme segments)
    (spelled : path.toList = (Path.segments segments).chars) : url.segmentsOf path = segments := by
  rw [segmentsOf, spelled, withoutBreaks_of_visible written.held.visible, readSegments_chars written]

/-- Of two paths that are set one after the other the first leaves no trace. -/
theorem Written.setPath_setPath (written : Written url host segments) (first second : String) :
    (url.setPath first).setPath second = url.setPath second := by
  rw [(written.setPath first).setPath_eq, written.setPath_eq, written.setPath_eq]
  rfl

end Url

/-!
## Addresses
-/

namespace Server

variable {address path : String} {url : Url} {host : Host} {segments : List (List Char)}

theorem parse_eq_ok_iff : parse address = .ok url ↔ Url.parse? address = some url ∧ url.hostChars ≠ [] := by
  unfold parse
  split
  · next unread => simp [unread]
  · next found read =>
      rw [read, Option.some.injEq]
      split
      · next unnamed =>
          refine ⟨nofun, fun ⟨same, named⟩ => absurd ?_ named⟩
          rw [← same]
          exact List.isEmpty_iff.mp unnamed
      · next named =>
          refine ⟨fun accepted => ?_, fun ⟨same, _⟩ => congrArg Except.ok same⟩
          obtain rfl := Except.ok.inj accepted
          exact ⟨rfl, fun unnamed => named (List.isEmpty_iff.mpr unnamed)⟩

theorem written_of_parse (accepted : parse address = .ok url) : ∃ host segments, Url.Written url host segments := by
  obtain ⟨read, named⟩ := parse_eq_ok_iff.mp accepted
  exact Url.written_of_parse? read named

/-- The text of a written URL is accepted as the address that it is. -/
theorem parse_href (written : Url.Written url host segments) : parse url.href = .ok url :=
  parse_eq_ok_iff.mpr ⟨written.parse?_href, written.hostChars_ne_nil⟩

theorem resourceUrl_of_parse (accepted : parse address = .ok url) (path : String) :
    resourceUrl address path = .ok (url.setPath path).href := by
  rw [resourceUrl, accepted]
  rfl

theorem caUrl_of_parse (accepted : parse address = .ok url) (scope : Scope) :
    caUrl address scope = .ok ("https://" ++ url.hostText ++ scope.endpoint) := by
  rw [caUrl, accepted]
  rfl

end Server

/-- No path changes where a request goes. The address of a resource is accepted again; it is the address of the server
but for the path, which is the given one if that is in written form. The endpoints for the bundle are therefore those
of the server, and a path that was set before leaves no trace. -/
theorem paths_keep_the_server {server : String} {url : Url} (accepted : Server.parse server = .ok url) (path : String) :
    ∃ resource read, Server.resourceUrl server path = .ok resource ∧ Server.parse resource = .ok read ∧
      read = { url with path := read.path } ∧
      (∀ segments, Url.WrittenPath url.scheme segments → path.toList = (Url.Path.segments segments).chars →
        read.path = .segments segments) ∧
      (∀ scope, Server.caUrl resource scope = Server.caUrl server scope) ∧
      ∀ earlier, ∃ middle, Server.resourceUrl server earlier = .ok middle ∧
        Server.resourceUrl middle path = .ok resource := by
  obtain ⟨host, segments, written⟩ := Server.written_of_parse accepted
  have reaccepted (path : String) : Server.parse (url.setPath path).href = .ok (url.setPath path) :=
    Server.parse_href (written.setPath path)
  refine ⟨(url.setPath path).href, url.setPath path, Server.resourceUrl_of_parse accepted path, reaccepted path,
    ?kept, ?given, ?endpoints, ?forgotten⟩
  case kept => rw [written.setPath_eq]
  case given =>
    intro segments settled spelled
    rw [written.setPath_eq, Url.segmentsOf_written settled spelled]
  case endpoints =>
    intro scope
    rw [Server.caUrl_of_parse (reaccepted path), Server.caUrl_of_parse accepted, written.setPath_eq]
    rfl
  case forgotten =>
    intro earlier
    refine ⟨(url.setPath earlier).href, Server.resourceUrl_of_parse accepted earlier, ?_⟩
    rw [Server.resourceUrl_of_parse (reaccepted earlier), written.setPath_setPath]

theorem paths_keep_the_server_hostile :
    let server := "https://user:pw@EXAMPLE.com:8443/old?q#f"
    let path := "//evil@x?#\\..\t/%2e%2e/é"
    let url : Url :=
      { scheme := "https".toList, username := "user".toList, password := "pw".toList,
        host := some (.domain "example.com".toList), port := some 8443, path := .segments ["old".toList],
        query := some "q".toList, fragment := some "f".toList }
    Server.parse server = .ok url ∧
      Server.resourceUrl server path = .ok "https://user:pw@example.com:8443/%C3%A9?q#f" ∧
      ∃ resource read, Server.resourceUrl server path = .ok resource ∧ Server.parse resource = .ok read ∧
        read = { url with path := read.path } ∧
        (∀ segments, Url.WrittenPath url.scheme segments → path.toList = (Url.Path.segments segments).chars →
          read.path = .segments segments) ∧
        (∀ scope, Server.caUrl resource scope = Server.caUrl server scope) ∧
        ∀ earlier, ∃ middle, Server.resourceUrl server earlier = .ok middle ∧
          Server.resourceUrl middle path = .ok resource := by
  intro server path url
  have accepted : Server.parse server = .ok url := Server.parse_eq_ok_iff.mpr ⟨by decide +kernel, by decide +kernel⟩
  have written : (url.setPath path).href = "https://user:pw@example.com:8443/%C3%A9?q#f" := by decide +kernel
  refine ⟨accepted, ?_, paths_keep_the_server accepted path⟩
  rw [Server.resourceUrl_of_parse accepted, written]

end JoinTrust
