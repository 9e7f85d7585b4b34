import PrismaNest.Naming.Words

/-! Templates of resource files, and the built-in ones.

A template mentions the name of the resource, its class and its variable by
placeholders. They are replaced one after another: the name first, then the class,
then the variable.
-/

set_option autoImplicit false

namespace PrismaNest

/-- Replaces every occurrence of a text, found from left to right, given how many characters
of the last occurrence are still to be passed. -/
def replaceFrom (searched replacement : List Char) (passing : Nat) : List Char → List Char
  | [] => []
  | c :: rest =>
    match passing with
    | more + 1 => replaceFrom searched replacement more rest
    | 0 =>
      if searched.isPrefixOf (c :: rest) then
        replacement ++ replaceFrom searched replacement (searched.length - 1) rest
      else c :: replaceFrom searched replacement 0 rest

def replaceAll (searched replacement text : String) : String :=
  String.ofList (replaceFrom searched.toList replacement.toList 0 text.toList)

namespace Template

def namePlaceholder : String := "__NAME__"
def classPlaceholder : String := "__CLASS__"
def variablePlaceholder : String := "__VAR__"

def render (template name : String) : String :=
  replaceAll variablePlaceholder (Naming.camelCase name)
    (replaceAll classPlaceholder (Naming.pascalCase name)
      (replaceAll namePlaceholder name template))

def lines (lines : List String) : String :=
  String.join (lines.map (· ++ "\n"))

def wiring : String := lines [
  "import \x7b Module \x7d from '@nestjs/common';",
  "import \x7b __CLASS__Service \x7d from './__NAME__.service';",
  "import \x7b __CLASS__Controller \x7d from './__NAME__.controller';",
  "",
  "@Module(\x7b",
  "  controllers: [__CLASS__Controller],",
  "  providers: [__CLASS__Service],",
  "\x7d)",
  "export class __CLASS__Module \x7b\x7d"]

def controller : String := lines [
  "import \x7b Controller, Get, Post, Body, Patch, Param, Delete \x7d from '@nestjs/common';",
  "import \x7b __CLASS__Service \x7d from './__NAME__.service';",
  "import \x7b Create__CLASS__Dto \x7d from './dto/create-__NAME__.dto';",
  "import \x7b Update__CLASS__Dto \x7d from './dto/update-__NAME__.dto';",
  "",
  "@Controller('__NAME__')",
  "export class __CLASS__Controller \x7b",
  "  constructor(private readonly __VAR__Service: __CLASS__Service) \x7b\x7d",
  "",
  "  @Post()",
  "  create(@Body() create__CLASS__Dto: Create__CLASS__Dto) \x7b",
  "    return this.__VAR__Service.create(create__CLASS__Dto);",
  "  \x7d",
  "",
  "  @Get()",
  "  findAll() \x7b",
  "    return this.__VAR__Service.findAll();",
  "  \x7d",
  "",
  "  @Get(':id')",
  "  findOne(@Param('id') id: string) \x7b",
  "    return this.__VAR__Service.findOne(id);",
  "  \x7d",
  "",
  "  @Patch(':id')",
  "  update(@Param('id') id: string, @Body() update__CLASS__Dto: Update__CLASS__Dto) \x7b",
  "    return this.__VAR__Service.update(id, update__CLASS__Dto);",
  "  \x7d",
  "",
  "  @Delete(':id')",
  "  remove(@Param('id') id: string) \x7b",
  "    return this.__VAR__Service.remove(id);",
  "  \x7d",
  "\x7d"]

def service : String := lines [
  "import \x7b Injectable \x7d from '@nestjs/common';",
  "import \x7b Create__CLASS__Dto \x7d from './dto/create-__NAME__.dto';",
  "import \x7b Update__CLASS__Dto \x7d from './dto/update-__NAME__.dto';",
  "",
  "@Injectable()",
  "export class __CLASS__Service \x7b",
  "  create(create__CLASS__Dto: Create__CLASS__Dto) \x7b",
  "    return 'This action adds a new __NAME__';",
  "  \x7d",
  "",
  "  findAll() \x7b",
  "    return \x60This action returns all __NAME__\x60;",
  "  \x7d",
  "",
  "  findOne(id: string) \x7b",
  "    return \x60This action returns a #$\x7bid\x7d __NAME__\x60;",
  "  \x7d",
  "",
  "  update(id: string, update__CLASS__Dto: Update__CLASS__Dto) \x7b",
  "    return \x60This action updates a #$\x7bid\x7d __NAME__\x60;",
  "  \x7d",
  "",
  "  remove(id: string) \x7b",
  "    return \x60This action removes a #$\x7bid\x7d __NAME__\x60;",
  "  \x7d",
  "\x7d"]

def createDto : String := lines [
  "export class Create__CLASS__Dto \x7b\x7d"]

def updateDto : String := lines [
  "import \x7b PartialType \x7d from '@nestjs/mapped-types';",
  "import \x7b Create__CLASS__Dto \x7d from './create-__NAME__.dto';",
  "",
  "export class Update__CLASS__Dto extends PartialType(Create__CLASS__Dto) \x7b\x7d"]

end Template

structure ResourceFile where
  /-- The path of its template, among the templates. -/
  template : String
  /-- What stands in its path in front of the name of the resource, and behind it. -/
  before : String
  behind : String
  /-- The template to use if there is no folder of templates. -/
  builtIn : String
  deriving DecidableEq, Repr

namespace ResourceFile

def all : List ResourceFile :=
  [⟨"module.template", "", ".module.ts", Template.wiring⟩,
   ⟨"controller.template", "", ".controller.ts", Template.controller⟩,
   ⟨"service.template", "", ".service.ts", Template.service⟩,
   ⟨"dto/create-dto.template", "dto/create-", ".dto.ts", Template.createDto⟩,
   ⟨"dto/update-dto.template", "dto/update-", ".dto.ts", Template.updateDto⟩]

def target (file : ResourceFile) (name : String) : String :=
  file.before ++ name ++ file.behind

end ResourceFile

end PrismaNest
