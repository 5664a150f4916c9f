import SqlTree.Doc

/-! Writing documents in one setting. -/
namespace SqlTree

/-- The text written so far and the first error met. Later pieces are written in either case. -/
structure Renderer where
  config : Setting := {}
  text : String := ""
  failure? : Option RenderError := none

namespace Renderer

def put (r : Renderer) (p : Piece) : Renderer :=
  { r with
    text := r.text ++ p.render r.config
    failure? := r.failure? <|> p.error? }

def write (r : Renderer) (d : Doc) : Renderer :=
  d.foldl put r

def hasFailed (r : Renderer) : Bool :=
  r.failure?.isSome

/-- A text with an error in it is given up as a whole. -/
def finish (r : Renderer) : Except RenderError String :=
  match r.failure? with
  | some e => .error e
  | none => .ok r.text

end Renderer

def Doc.render (c : Setting) (d : Doc) : Except RenderError String :=
  ((Renderer.mk c "" none).write d).finish

/-- The text of a document under the default configuration, if it has one. -/
def Doc.display? (d : Doc) : Option String :=
  (d.render .default).toOption

def Dialect.render (dialect : Dialect) (d : Doc) : Except RenderError String :=
  d.render dialect.config

end SqlTree
