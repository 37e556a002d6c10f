import Forms.Node.Field

/-!
# Displays

Nodes that show something and neither bind a value nor hold other nodes.
-/

namespace Forms

structure TableColumn where
  key : String
  title : String
  sortable : Option Bool
  width : Option Json
deriving DecidableEq

namespace TableColumn

def toJson (column : TableColumn) : Json :=
  .object ([("key", .string column.key), ("title", .string column.title)]
    ++ optionalEntry "sortable" .bool column.sortable ++ optionalEntry "width" id column.width)

def decode : Decoder TableColumn :=
  Decode.record "TableColumn"
    (TableColumn.mk <$> Fields.required "key" Decode.string
      <*> Fields.required "title" Decode.string
      <*> Fields.optional "sortable" Decode.boolean
      <*> Fields.optional "width" Decode.any)

end TableColumn

structure Pagination where
  pageSize : UInt32
  currentPage : Option UInt32
  total : Option UInt64
deriving DecidableEq

namespace Pagination

def toJson (pagination : Pagination) : Json :=
  .object ([("pageSize", count32Json pagination.pageSize)]
    ++ optionalEntry "currentPage" count32Json pagination.currentPage
    ++ optionalEntry "total" count64Json pagination.total)

def decode : Decoder Pagination :=
  Decode.record "TablePagination"
    (Pagination.mk <$> Fields.required "pageSize" Decode.count32
      <*> Fields.optional "currentPage" Decode.count32
      <*> Fields.optional "total" Decode.count64)

end Pagination

structure Crumb where
  label : String
  href : Option String
  current : Option Bool
deriving DecidableEq

namespace Crumb

def toJson (crumb : Crumb) : Json :=
  .object ([("label", .string crumb.label)] ++ optionalEntry "href" .string crumb.href
    ++ optionalEntry "current" .bool crumb.current)

def decode : Decoder Crumb :=
  Decode.record "BreadcrumbItem"
    (Crumb.mk <$> Fields.required "label" Decode.string
      <*> Fields.optional "href" Decode.string
      <*> Fields.optional "current" Decode.boolean)

end Crumb

structure Chip where
  id : String
  label : String
  value : Option Json
  removable : Option Bool
deriving DecidableEq

namespace Chip

def toJson (chip : Chip) : Json :=
  .object ([("id", .string chip.id), ("label", .string chip.label)]
    ++ optionalEntry "value" (fun value => value) chip.value
    ++ optionalEntry "removable" .bool chip.removable)

def decode : Decoder Chip :=
  Decode.record "ChipItem"
    (Chip.mk <$> Fields.required "id" Decode.string
      <*> Fields.required "label" Decode.string
      <*> Fields.optional "value" Decode.any
      <*> Fields.optional "removable" Decode.boolean)

end Chip

inductive Display where
  | button (label : String) (variant size buttonType : Option String) (loading : Option Bool)
      (icon iconPosition : Option String)
  | table (columns : List TableColumn) (data : List Json) (sortable : Option Bool)
      (pagination : Option Pagination) (selectable : Option Bool)
  | progressBar (value : Double) (max : Option Double) (label variant : Option String)
      (showPercentage : Option Bool)
  | notification (message : String) (title : Option String) (variant : String)
      (duration : Option UInt64) (position : Option String)
  | badge (text : String) (variant size : Option String)
  | breadcrumbs (items : List Crumb) (separator : Option String) (maxItems : Option UInt32)
  | chips (items : List Chip) (selectable : Option Bool) (selected : Option (List String))
      (variant : Option String)
deriving DecidableEq

namespace Display

def tag : Display → String
  | .button .. => "button"
  | .table .. => "table"
  | .progressBar .. => "progress-bar"
  | .notification .. => "notification"
  | .badge .. => "badge"
  | .breadcrumbs .. => "breadcrumbs"
  | .chips .. => "chips"

def doubleJson (value : Double) : Json := .number (.double value)

def entries : Display → List (String × Json)
  | .button label variant size buttonType loading icon iconPosition =>
    [("label", .string label)] ++ optionalEntry "variant" .string variant
      ++ optionalEntry "size" .string size ++ optionalEntry "buttonType" .string buttonType
      ++ optionalEntry "loading" .bool loading ++ optionalEntry "icon" .string icon
      ++ optionalEntry "iconPosition" .string iconPosition
  | .table columns data sortable pagination selectable =>
    [("columns", .array (columns.map TableColumn.toJson)), ("data", .array data)]
      ++ optionalEntry "sortable" .bool sortable
      ++ optionalEntry "pagination" Pagination.toJson pagination
      ++ optionalEntry "selectable" .bool selectable
  | .progressBar value max label variant showPercentage =>
    [("value", doubleJson value)] ++ optionalEntry "max" doubleJson max
      ++ optionalEntry "label" .string label ++ optionalEntry "variant" .string variant
      ++ optionalEntry "showPercentage" .bool showPercentage
  | .notification message title variant duration position =>
    [("message", .string message), ("variant", .string variant)]
      ++ optionalEntry "title" .string title ++ optionalEntry "duration" count64Json duration
      ++ optionalEntry "position" .string position
  | .badge text variant size =>
    [("text", .string text)] ++ optionalEntry "variant" .string variant
      ++ optionalEntry "size" .string size
  | .breadcrumbs items separator maxItems =>
    [("items", .array (items.map Crumb.toJson))] ++ optionalEntry "separator" .string separator
      ++ optionalEntry "maxItems" count32Json maxItems
  | .chips items selectable selected variant =>
    [("items", .array (items.map Chip.toJson))] ++ optionalEntry "selectable" .bool selectable
      ++ optionalEntry "selected" Json.ofStrings selected ++ optionalEntry "variant" .string variant

/-- The fields that a tag adds; none when the tag is no display. -/
def fields? (tag : String) : Option (Fields Display) :=
  match tag with
  | "button" => some
    (Display.button <$> Fields.required "label" Decode.string
      <*> Fields.optional "variant" Decode.string
      <*> Fields.optional "size" Decode.string
      <*> Fields.optional "buttonType" Decode.string
      <*> Fields.optional "loading" Decode.boolean
      <*> Fields.optional "icon" Decode.string
      <*> Fields.optional "iconPosition" Decode.string)
  | "table" => some
    (Display.table <$> Fields.defaulting "columns" (Decode.list TableColumn.decode) []
      <*> Fields.defaulting "data" (Decode.list Decode.any) []
      <*> Fields.optional "sortable" Decode.boolean
      <*> Fields.optional "pagination" Pagination.decode
      <*> Fields.optional "selectable" Decode.boolean)
  | "progress-bar" => some
    (Display.progressBar <$> Fields.required "value" Decode.double
      <*> Fields.optional "max" Decode.double
      <*> Fields.optional "label" Decode.string
      <*> Fields.optional "variant" Decode.string
      <*> Fields.optional "showPercentage" Decode.boolean)
  | "notification" => some
    (Display.notification <$> Fields.required "message" Decode.string
      <*> Fields.optional "title" Decode.string
      <*> Fields.required "variant" Decode.string
      <*> Fields.optional "duration" Decode.count64
      <*> Fields.optional "position" Decode.string)
  | "badge" => some
    (Display.badge <$> Fields.required "text" Decode.string
      <*> Fields.optional "variant" Decode.string
      <*> Fields.optional "size" Decode.string)
  | "breadcrumbs" => some
    (Display.breadcrumbs <$> Fields.defaulting "items" (Decode.list Crumb.decode) []
      <*> Fields.optional "separator" Decode.string
      <*> Fields.optional "maxItems" Decode.count32)
  | "chips" => some
    (Display.chips <$> Fields.defaulting "items" (Decode.list Chip.decode) []
      <*> Fields.optional "selectable" Decode.boolean
      <*> Fields.optional "selected" (Decode.list Decode.string)
      <*> Fields.optional "variant" Decode.string)
  | _ => none

end Display

end Forms
