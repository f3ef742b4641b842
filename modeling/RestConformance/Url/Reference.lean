import RestConformance.Url.Parser

/-!
# References

Reads an address that may be relative to another one, as servers give them in redirections. What a
reference does not say is taken from the base; a path that does not start with a slash replaces the
last segment of the path of the base.

## Main definitions

* `Url.resolve` – the address that a reference means at a base.
-/

namespace RestConformance.Url

/-- The segments without the last one. The letter of a drive stays in the path of a file. -/
def dropSegment (scheme : Scheme) (segments : List Text) : List Text :=
  if scheme = .file then directoryAbove segments else segments.dropLast

/-- The address that a reference without a scheme of its own means. -/
def resolveRelative (base : Url) (main : Text) (query fragment : Option Text) :
    Except Error Url :=
  let query' := query.map (encodeQuery base.scheme)
  let fragment' := fragment.map encodeFragment
  let special := base.scheme.isSpecial
  let segments :=
    match base.path with
    | .segments list => list
    | .plain _ => []
  match main with
  -- Only a reference without a path keeps the path, and the query where it has none itself.
  | [] => .ok { base with query := query'.or base.query, fragment := fragment' }
  | c :: rest =>
    let leading := main.takeWhile (isSlash special)
    if 2 ≤ leading.length then do
      let body :=
        match main with
        | '/' :: '/' :: body => body
        | _ => main.drop leading.length
      let (authority, path) ←
        readHierarchy base.scheme (query.isSome || fragment.isSome) body
      return ⟨base.scheme, some authority, path, query', fragment'⟩
    else if isSlash special c then
      .ok ⟨base.scheme, base.authority, readPathFrom base.scheme [] (c :: rest), query', fragment'⟩
    else
      let before := dropSegment base.scheme segments
      .ok ⟨base.scheme, base.authority, readPathFrom base.scheme before (c :: rest), query',
        fragment'⟩

/-- Whether a reference with a scheme is relative all the same: it repeats the special scheme of
the base and does not announce a host. -/
def isRelativeWith (base : Url) (scheme : Scheme) (rest : Text) : Bool :=
  scheme.isSpecial && scheme != .file && scheme == base.scheme &&
    (rest.takeWhile (isSlash true)).length < 2

/-- The address that a reference means at a base. -/
def resolve (base : Url) (t : Text) : Except Error Url :=
  let (main, query, fragment) := cutParts (clean t)
  match readScheme? main, base.path with
  | some (scheme, rest), _ =>
    if isRelativeWith base scheme rest then resolveRelative base rest query fragment
    else parseText t
  | none, .plain _ =>
    match main, query, fragment with
    | [], none, some text => .ok { base with fragment := some (encodeFragment text) }
    | _, _, _ => .error .relativeToOpaque
  | none, .segments _ => resolveRelative base main query fragment

end RestConformance.Url
