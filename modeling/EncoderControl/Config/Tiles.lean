import EncoderControl.Config
import EncoderControl.Error

/-!
# Tile layouts

A picture is cut into columns and rows of whole coding tree units. A layout is accepted when it
leaves at least one unit for the last column and the last row.
-/

namespace EncoderControl

/-- Most tiles in one direction. -/
def maxTiles : Nat := 256

/-- Checks one direction of a layout: `countMinus1` tiles of the given sizes and a last one that
takes the rest, or tiles of uniform size, across `extent` units. -/
def checkTileAxis (axis : TileAxis) (countMinus1 extent : Nat) (uniform : Bool)
    (sizes : List Nat) : Except EncodeError Unit :=
  let total := (sizes.take countMinus1).foldr (· + ·) 0
  if maxTiles ≤ countMinus1 then
    .error (.tileLayout axis (.tooMany (countMinus1 + 1)))
  else if extent ≤ countMinus1 then
    .error (.tileLayout axis (.moreThanBlocks extent (countMinus1 + 1)))
  else if uniform ∨ countMinus1 = 0 then
    .ok ()
  else if sizes.length < countMinus1 then
    .error (.tileLayout axis (.missingSizes sizes.length (countMinus1 + 1)))
  else if extent ≤ total then
    .error (.tileLayout axis (.noRoom total extent))
  else
    .ok ()

namespace Config

/-- Size of a picture in coding tree units. -/
def sizeInCtus (config : Config) : Resolution :=
  config.resolution.inBlocksOf config.maxCuSize

/-- Checks the layout, columns first. A picture cannot be measured in empty units. -/
def checkTiles (config : Config) : Except (Stop EncodeError) Unit :=
  let tiles := config.tiles
  if config.maxCuSize.width = 0 ∨ config.maxCuSize.height = 0 then
    .error (.fault .emptyBlock)
  else Except.mapError Stop.refused do
    checkTileAxis .columns tiles.numColumnsMinus1 config.sizeInCtus.width tiles.uniformSpacing
      tiles.columnWidths
    checkTileAxis .rows tiles.numRowsMinus1 config.sizeInCtus.height tiles.uniformSpacing
      tiles.rowHeights

end Config

end EncoderControl
